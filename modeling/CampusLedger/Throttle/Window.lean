import CampusLedger.Failure
import CampusLedger.Time.Instant
/-!
# Sliding-window request counts

Requests are counted per key within a sliding window. A request is allowed when fewer than
`limit` earlier allowed requests of its key fall after `now - window`; the stamps at or before
that cutoff are dropped from the front first. The reset time is the oldest kept stamp plus the
window.

Stamps are kept in arrival order, so a clock that goes backwards leaves them unsorted; dropping
then stops at the first stamp after the cutoff, as it does on sorted stamps.

A limit below one leaves no stamp to take the reset time from, and the count fails.
-/

namespace CampusLedger.Throttle

structure Decision where
  allowed : Bool
  limit : Int
  remaining : Int
  resetAt : Instant
  deriving DecidableEq, Repr

/-- The whole seconds until the reset time, rounded up, and zero once it has passed. The gap
is a 64-bit word held to its range, and rounding up adds a second less a nanosecond to it as a
word: a gap within a second of the top wraps to a negative count, cut toward zero. -/
def Decision.retryAfter (d : Decision) (now : Instant) : Int :=
  let gap := d.resetAt.since now
  if gap ≤ 0 then 0 else (Instant.wrapGap (gap + Instant.second - 1)).tdiv Instant.second

/-- Allowed stamps per key. -/
structure Window where
  stamps : List (String × List Instant) := []
  deriving Repr, Inhabited

namespace Window

/-- The stamps of a key, oldest arrival first. -/
def stampsOf (w : Window) (key : String) : List Instant :=
  ((w.stamps.find? (·.1 == key)).map (·.2)).getD []

def setStamps (w : Window) (key : String) (ts : List Instant) : Window :=
  if w.stamps.any (·.1 == key) then
    { stamps := w.stamps.map fun p => if p.1 == key then (key, ts) else p }
  else { stamps := w.stamps ++ [(key, ts)] }

/-- The failure of a count with no stamp to reset from. -/
def emptyIndex : Failure := .panic "runtime error: index out of range [0] with length 0"

/-- Counts a request of `key` at `now`: drops the stamps at or before `now - span` from the
front, refuses when `limit` remain, and otherwise stamps the request. -/
def allow (w : Window) (key : String) (limit : Int) (span : Int) (now : Instant) :
    Except Failure Decision × Window :=
  let cutoff := now.addNanos (Instant.wrapGap (-span))
  let kept := (w.stampsOf key).dropWhile fun t => t.nanos ≤ cutoff.nanos
  if (kept.length : Int) ≥ limit then
    let w' := w.setStamps key kept
    match kept with
    | first :: _ => (.ok ⟨false, limit, 0, first.addNanos span⟩, w')
    | [] => (.error emptyIndex, w')
  else
    let stamped := kept ++ [now]
    let first := (stamped.head?).getD now
    (.ok ⟨true, limit, limit - stamped.length, first.addNanos span⟩, w.setStamps key stamped)

end Window

end CampusLedger.Throttle
