import CampusLedger.Api.Body
import CampusLedger.Json.Access
/-!
# Simulation sessions

A session drives one in-memory campus through a script of steps. It keeps the clock, which a
step may set or advance, and the receipts of the transfers made so far, which later steps may
present again by their number: the k-th from the start, or from the end when k is negative.

A step ends with the campus's answer, or is refused as bad input when it names something the
session does not have. Each answer also reports the audit events the step stored, the events
it streamed, and how many events the audit queue dropped, when there are any.
-/

namespace CampusLedger.Simulation

/-- A session: the campus, the clock and the receipts so far. -/
structure Session where
  campus : Campus
  clock : Instant
  /-- The wall clock, by which bearer tokens are checked. -/
  wall : Instant
  receipts : List Transfer := []
  /-- The script's options, for the parts wired per request. -/
  options : Json := .null
  deriving Inhabited

/-- Why a step has no answer of the campus. -/
inductive Refusal where
  | failed (e : Failure)
  /-- The step itself is malformed. -/
  | badInput (msg : String)
  deriving Inhabited

abbrev Play := ExceptT Refusal (StateM Session)

namespace Play

def onCampus {α : Type} (x : Act α) : Play α := do
  let s ← get
  let (r, c) := (x.run).run s.campus
  set { s with campus := c }
  match r with
  | .ok a => pure a
  | .error e => throw (.failed e)

def bad {α : Type} (msg : String) : Play α := throw (.badInput msg)

/-- The receipt of a number: the k-th from the start, or from the end when negative. -/
def receipt? (receipts : List Transfer) (k : Int) : Option Transfer :=
  let i : Int := if k > 0 then k - 1 else receipts.length + k
  if k == 0 || i < 0 then none else receipts[i.toNat]?

/-- The number of a receipt counted from the start: a negative number counts from the end. -/
def receiptNumber (receipts : List Transfer) (k : Int) : Int :=
  if k < 0 then receipts.length + 1 + k else k

/-- The transfer a step presents: a receipt by number with fields overridden, or the given
fields alone. A receipt that does not exist is refused under its number from the start, and an
identifier that does not read is refused with the reason. -/
def transferOf (spec : Json) : Play Transfer := do
  let receipts := (← get).receipts
  let base ← if spec.has "receipt" then
      match receipt? receipts (spec.intAt "receipt") with
      | some t => pure t
      | none =>
        bad ("receipt " ++ toString (receiptNumber receipts (spec.intAt "receipt")) ++
          " does not exist")
    else pure {}
  let id ← if spec.has "id" then
      match Uuid.read (spec.textAt "id").toUTF8.toList with
      | .ok u => pure u
      | .error e => bad e
    else pure base.id
  pure { id
         asset := if spec.has "asset_id" then ⟨spec.natAt "asset_id"⟩ else base.asset
         source := if spec.has "from" then ⟨spec.textAt "from"⟩ else base.source
         target := if spec.has "to" then ⟨spec.textAt "to"⟩ else base.target
         amount := if spec.has "amount" then spec.natAt "amount" else base.amount }

def keepReceipt (t : Transfer) : Play Nat :=
  modifyGet fun s => (s.receipts.length + 1, { s with receipts := s.receipts ++ [t] })

end Play

/-- The answer of a failure: its class and its text. -/
def failureJson (e : Failure) : Json := .obj [("error", .str e.className), ("message", .str e.text)]

def Refusal.toJson : Refusal → Json
  | .failed e => failureJson e
  | .badInput msg => .obj [("error", .str "driver"), ("message", .str ("bad input: " ++ msg))]

/-- The stream record of an event: keyed by its identifier, stamped with its time, and headed
by its action and ledger. -/
def streamRecord (topic : String) (e : Audit.Event) : Json :=
  .obj [("topic", .str topic), ("key", .str e.id.toText), ("value", e.toJson),
    ("timestamp", .time e.timestamp),
    ("headers", .arr [.obj [("key", .str "action"), ("value", .str e.action)],
      .obj [("key", .str "ledger"), ("value", .str e.ledger.name)]])]

/-- Runs one step's act, framing its answer with what it stored, streamed and dropped. -/
def Session.frame (s : Session) (act : Play Json) : Json × Session :=
  let stored := s.campus.journal.events.length
  let streamed := s.campus.streamed.length
  let dropped := s.campus.dropped
  let (r, s') := (act.run).run s
  let answer := match r with
    | .ok v => Json.obj [("result", v)]
    | .error e => e.toJson
  let events := s'.campus.journal.events.drop stored
  let produced := s'.campus.streamed.drop streamed
  let lost := s'.campus.dropped - dropped
  let topic := s'.campus.wiring.streamTopic.getD ""
  let answer := if events.isEmpty then answer else answer.push "events" (eventsJson events)
  let answer :=
    if produced.isEmpty then answer
    else answer.push "produced" (.arr (produced.map (streamRecord topic)))
  let answer := if lost == 0 then answer else answer.push "audit_dropped" (.nat lost)
  (answer, s')

end CampusLedger.Simulation
