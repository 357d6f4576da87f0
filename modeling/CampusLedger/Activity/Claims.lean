import CampusLedger.Time.Instant
/-!
# Claims on activity events

An activity event is applied once: its identifier is claimed before applying, and a claim holds
for a time to live. A claim is refused while an earlier claim of the same identifier has not
expired (the clock is before its expiry); releasing a claim frees the identifier at once. Every
`sweepEvery` granted claims (256 unless set otherwise) the expired ones are swept away, which
changes no later answer.
-/

namespace CampusLedger.Activity

/-- Claimed identifiers with their expiries, how many claims were granted, and how many granted
claims pass between sweeps. -/
structure Claims where
  ttl : Int
  expiries : List (String × Instant) := []
  granted : Nat := 0
  /-- Positive; a store sets 256, and only its own tests set fewer. -/
  sweepEvery : Nat := 256
  deriving Repr, Inhabited

namespace Claims

/-- The claims without those expired at `now`. -/
def sweep (c : Claims) (now : Instant) : Claims :=
  { c with expiries := c.expiries.filter fun p => now < p.2 }

/-- The expiry of an identifier's claim, if it has one. -/
def expiry? (c : Claims) (id : String) : Option Instant :=
  (c.expiries.find? (·.1 == id)).map (·.2)

/-- Claims `id` at `now`: refused while an unexpired claim holds, else granted until
`now + ttl`. -/
def claim (c : Claims) (id : String) (now : Instant) : Bool × Claims :=
  match c.expiry? id with
  | some e => if now < e then (false, c) else grant c
  | none => grant c
where
  /-- Grants the claim, sweeping every `sweepEvery` grants. -/
  grant (c : Claims) : Bool × Claims :=
    let c' := { c with
      expiries := (c.expiries.filter (·.1 != id)) ++ [(id, now.addNanos c.ttl)]
      granted := c.granted + 1 }
    (true, if c'.granted % c.sweepEvery == 0 then c'.sweep now else c')

def release (c : Claims) (id : String) : Claims :=
  { c with expiries := c.expiries.filter (·.1 != id) }

end Claims

end CampusLedger.Activity
