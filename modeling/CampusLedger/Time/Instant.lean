/-!
# Instants

An instant is a count of nanoseconds since 1970-01-01T00:00:00Z. Instants are written in
RFC 3339 form in UTC with a `Z`: the fraction of a second appears only when it is not zero,
and then without trailing zeros. The form is well formed only for the years 0 to 9999; other
years are written with more digits or a sign all the same, and writers that insist on the form
refuse them.
-/

namespace CampusLedger

/-- Nanoseconds since the Unix epoch. -/
structure Instant where
  nanos : Int
  deriving DecidableEq, Repr, Inhabited, Ord

namespace Instant

def second : Int := 1000000000

instance : LT Instant := ⟨fun a b => a.nanos < b.nanos⟩
instance : LE Instant := ⟨fun a b => a.nanos ≤ b.nanos⟩
instance (a b : Instant) : Decidable (a < b) := inferInstanceAs (Decidable (a.nanos < b.nanos))
instance (a b : Instant) : Decidable (a ≤ b) := inferInstanceAs (Decidable (a.nanos ≤ b.nanos))

theorem le_def {a b : Instant} : a ≤ b ↔ a.nanos ≤ b.nanos := Iff.rfl

theorem lt_def {a b : Instant} : a < b ↔ a.nanos < b.nanos := Iff.rfl

def ofSeconds (s : Int) : Instant := ⟨s * second⟩

def addNanos (t : Instant) (d : Int) : Instant := ⟨t.nanos + d⟩

@[simp] theorem addNanos_nanos (t : Instant) (d : Int) : (t.addNanos d).nanos = t.nanos + d :=
  rfl

def addSeconds (t : Instant) (s : Int) : Instant := t.addNanos (s * second)

/-- Whole seconds since the epoch, rounded down. -/
def unixSeconds (t : Instant) : Int := t.nanos / second

/-- The signed 64-bit word an integer wraps to. Gaps between instants are such words, so sums
of gaps wrap as they do. -/
def wrapGap (n : Int) : Int := (n + Int.pow 2 63) % Int.pow 2 64 - Int.pow 2 63

/-- A whole number of seconds as a gap in nanoseconds: the product wraps as a signed 64-bit
word does, so that a count of seconds too large for the word gives a gap of the other sign or a
small one. -/
def secondsGap (s : Int) : Int := wrapGap (s * second)

/-- The instant a gap of whole seconds later, the gap wrapped as `secondsGap` wraps it. -/
def advance (t : Instant) (s : Int) : Instant := t.addNanos (secondsGap s)

/-- The gap from `u` to `t` in nanoseconds, held to the range of a signed 64-bit word: a gap
beyond it gives the nearest end. -/
def since (t u : Instant) : Int :=
  max (-Int.pow 2 63) (min (Int.pow 2 63 - 1) (t.nanos - u.nanos))

/-- The days since 1970-01-01 of a proleptic Gregorian date. -/
def daysOfDate (y m d : Int) : Int :=
  let y' := if m ≤ 2 then y - 1 else y
  let era := y' / 400
  let yoe := y' - era * 400
  let mp := (m + 9) % 12
  let doy := (153 * mp + 2) / 5 + d - 1
  let doe := yoe * 365 + yoe / 4 - yoe / 100 + doy
  era * 146097 + doe - 719468

/-- The proleptic Gregorian date of a count of days since 1970-01-01. -/
def dateOfDays (z : Int) : Int × Int × Int :=
  let z := z + 719468
  let era := z / 146097
  let doe := z - era * 146097
  let yoe := (doe - doe / 1460 + doe / 36524 - doe / 146096) / 365
  let y := yoe + era * 400
  let doy := doe - (365 * yoe + yoe / 4 - yoe / 100)
  let mp := (5 * doy + 2) / 153
  let d := doy - (153 * mp + 2) / 5 + 1
  let m := if mp < 10 then mp + 3 else mp - 9
  (if m ≤ 2 then y + 1 else y, m, d)

def padded (width : Nat) (n : Nat) : String :=
  let s := toString n
  String.ofList (List.replicate (width - s.length) '0') ++ s

/-- The fraction of a second: nine digits without trailing zeros, or nothing when zero. -/
def fraction (nanos : Nat) : String :=
  if nanos = 0 then ""
  else "." ++ String.ofList ((padded 9 nanos).toList.reverse.dropWhile (· == '0')).reverse

/-- The RFC 3339 text in UTC, with the fraction only when it is not zero. -/
def toText (t : Instant) : String :=
  let secs := t.nanos / second
  let nanos := (t.nanos % second).toNat
  let days := secs / 86400
  let rem := (secs % 86400).toNat
  let (y, m, d) := dateOfDays days
  let year := if y < 0 then "-" ++ padded 4 y.natAbs else padded 4 y.toNat
  year ++ "-" ++ padded 2 m.toNat ++ "-" ++ padded 2 d.toNat ++ "T" ++ padded 2 (rem / 3600) ++
    ":" ++ padded 2 (rem / 60 % 60) ++ ":" ++ padded 2 (rem % 60) ++ fraction nanos ++ "Z"

def calendarYear (t : Instant) : Int := (dateOfDays (t.nanos / second / 86400)).1

/-- Whether the RFC 3339 text of an instant is well formed: its year has four digits and no
sign, so lies in 0 to 9999. -/
def writable (t : Instant) : Bool := 0 ≤ t.calendarYear && t.calendarYear ≤ 9999

end Instant

end CampusLedger
