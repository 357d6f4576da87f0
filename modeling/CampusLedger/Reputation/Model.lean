import CampusLedger.Ledger.Guard
import CampusLedger.Pillar
import CampusLedger.Time.Instant
/-!
# The reputation ledger's records

Each account holds its four pillar scores and their composite under the ledger's weights. The
weights are fixed at initialization. Applying a delta adds it pillar by pillar and recomputes
the composite from the new scores; an overflow of either changes nothing.
-/

namespace CampusLedger.Reputation

structure Config where
  guard : Ledger.Guard
  weights : Scores := {}
  totalUsers : Nat := 0
  deriving DecidableEq, Repr, Inhabited

/-- A fresh configuration: uninitialized, zero weights. -/
def Config.fresh (controller : AccountId) : Config := { guard := ⟨controller, false⟩ }

structure Account where
  id : AccountId
  scores : Scores := {}
  composite : Nat := 0
  registeredAt : Instant
  updatedAt : Instant
  deriving DecidableEq, Repr, Inhabited

namespace Account

def fresh (id : AccountId) (now : Instant) : Account :=
  { id, registeredAt := now, updatedAt := now }

/-- Adds the delta and recomputes the composite under `w`, stamping `now`. -/
def applyDelta (a : Account) (d w : Scores) (now : Instant) : Except Failure Account := do
  let next ← a.scores.add d
  let composite ← Scores.composite w next
  pure { a with scores := next, composite, updatedAt := now }

end Account

end CampusLedger.Reputation
