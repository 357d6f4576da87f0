import CampusLedger.Campus.Staking
import CampusLedger.Json.Fields
/-!
# Activity events

An activity event awards points in one pillar to one account. Events arrive as JSON text and
are applied at most once: the event's identifier is claimed before its delta is applied, and
the claim is released when applying fails, so that a retry may apply it later.

Each event ends in one outcome. It is malformed when the text does not decode, its identifier
is nil, or its account or pillar is not valid; a duplicate while an earlier claim holds;
rejected when the ledger refuses it for good (unknown account, overflow, invalid input or an
unauthorized caller); failed for any other refusal, which is reported to the caller; and
applied otherwise. A claim that cannot be made is reported without an outcome.
-/

namespace CampusLedger.Activity

inductive Outcome where
  | applied
  | duplicate
  | malformed
  | rejected
  | failed
  deriving DecidableEq, Repr, Inhabited

def Outcome.name : Outcome → String
  | .applied => "applied"
  | .duplicate => "duplicate"
  | .malformed => "malformed"
  | .rejected => "rejected"
  | .failed => "failed"

/-- A decoded activity event. -/
structure Award where
  eventId : Uuid
  account : AccountId
  pillar : Pillar
  points : Nat
  deriving DecidableEq, Repr

def Award.delta (a : Award) : Scores :=
  match a.pillar with
  | .attendance => { attendance := a.points }
  | .voting => { voting := a.points }
  | .feedback => { feedback := a.points }
  | .certification => { certification := a.points }

/-- The fields of an event, in the order they are decoded. -/
def eventFields : List String := ["event_id", "account", "pillar", "points", "occurred_at"]

/-- Decodes an event's text: an object whose members name the event's fields in any case, with
a UUID text identifier, text account and pillar, an unsigned word of points and an RFC 3339
time of occurrence. -/
def decode (text : List UInt8) : Option Award := do
  let v ← Json.parse? text
  let ms ← (Json.recordMembers v).toOption
  let r := Json.route eventFields ms
  let eventId ← (r.uuid "event_id").toOption
  let account ← (r.text "account").toOption
  let pillar ← (r.text "pillar").toOption
  let points ← (r.word "points").toOption
  let _ ← (r.instant "occurred_at").toOption
  if eventId.isNil then none
  let account ← (AccountId.ofText account).toOption
  let pillar ← (Pillar.ofText pillar).toOption
  pure { eventId, account, pillar, points }

/-- Whether the ledger refused an update for good. -/
def permanent (e : Failure) : Bool :=
  [Code.unknownAccount, .overflow, .invalidInput, .unauthorized].any e.hasCode

/-- The result of handling one event: the outcome counted, if any, and the failure reported to
the caller, if any. -/
structure Handled where
  outcome : Option Outcome := none
  failure : Option Failure := none
  deriving Inhabited

open Act in
def observe (o : Outcome) : Act Unit := do
  if (← get).wiring.activityMetered then
    meter fun r => r.inc "ccms_activity_events_total" [o.name]

open Act in
/-- Handles one event's text, applying its award as the ledger's controller. -/
def handle (ctx : Context) (text : List UInt8) : Act Handled := do
  match decode text with
  | none =>
    observe .malformed
    pure { outcome := some .malformed }
  | some award =>
    let id := award.eventId.toText
    if ← tripped "dedup.Claim" then
      return { failure := some (.wrap ("claim activity event " ++ id) (.injected "dedup.Claim")) }
    let c ← get
    let (claimed, claims) := c.claims.claim id ctx.now
    set { c with claims }
    if !claimed then
      observe .duplicate
      return { outcome := some .duplicate }
    let controller := (← get).wiring.controller
    let result ← tryCatch (do
        let _ ← Reputation.updateScores ctx controller award.account award.delta
        pure none)
      fun e => match e with
        | .panic _ => throw e
        | e => pure (some e)
    match result with
    | none =>
      observe .applied
      if (← get).wiring.activityMetered then
        meter fun r => r.add "ccms_activity_points_total" [award.pillar.name] (Float.ofNat award.points)
      pure { outcome := some .applied }
    | some e =>
      if !(← tripped "dedup.Release") then
        modify fun c => { c with claims := c.claims.release id }
      if permanent e then
        observe .rejected
        pure { outcome := some .rejected }
      else
        observe .failed
        pure { outcome := some .failed, failure := some (.wrap ("apply activity event " ++ id) e) }

end CampusLedger.Activity
