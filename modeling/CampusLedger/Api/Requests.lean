import CampusLedger.Identifier
import CampusLedger.Pillar
import CampusLedger.Json.Fields
import CampusLedger.Failure
/-!
# Request records

The records that mutating routes read from their bodies, and the checks each makes once read.
Every record refuses keys that name none of its fields, nested records included. Words are
unsigned 64-bit integer numerals, identifiers of accounts are texts taken as they are, and a
transfer identifier is a UUID in one of its textual forms; `null` leaves a field as it was.
A failed check is a bad request with the check's own message.

A request body holds one JSON value. Reading looks at the first MiB of the body only, takes
the first value found there and reads it into a record; a body with no value, a value that
does not parse, or a value of the wrong shape is refused as an invalid body. Once the value is
read, the body must end after blanks, or continue with a closing bracket or brace, which ends
no value; anything else is refused as trailing data.
-/

namespace CampusLedger.Http

def maxBodyOctets : Nat := Nat.pow 2 20

def invalidBody : Failure := .make .badRequest "invalid JSON body"

def trailingData : Failure := .make .badRequest "request body must contain a single JSON object"

/-- Whether octets after a value start another one. -/
def moreAfter (rest : List UInt8) : Bool :=
  match Json.skipSpace rest with
  | [] => false
  | b :: _ => b != 93 && b != 125

/-- Reads a request body with a reader of its value. -/
def decodeBody {α : Type} (read : Json → Except Unit α) (body : List UInt8) : Except Failure α :=
  match Json.readPrefix? (body.take maxBodyOctets) with
  | none => .error invalidBody
  | some (v, rest) =>
    match read v with
    | .error () => .error invalidBody
    | .ok a => if moreAfter rest then .error trailingData else .ok a

end CampusLedger.Http

namespace CampusLedger.Api

open Json

/-- Reads pillar words over the words already read. -/
def readScores (init : Scores) (ms : List (String × Json)) : Except Unit Scores := do
  let r := route ["attendance", "voting", "feedback", "certification"] ms
  if r.unknown then throw ()
  pure { attendance := ← r.word "attendance" init.attendance, voting := ← r.word "voting" init.voting,
         feedback := ← r.word "feedback" init.feedback,
         certification := ← r.word "certification" init.certification }

/-- Reads a receipt over the fields already read. -/
def readTransfer (init : Transfer) (ms : List (String × Json)) : Except Unit Transfer := do
  let r := route ["id", "asset_id", "from", "to", "amount"] ms
  if r.unknown then throw ()
  pure { id := ← r.uuid "id" init.id, asset := ⟨← r.word "asset_id" init.asset.id⟩,
         source := ⟨← r.text "from" init.source.name⟩, target := ⟨← r.text "to" init.target.name⟩,
         amount := ← r.word "amount" init.amount }

/-- Reads an optional nested record: `null` empties it, and an object is read over the record
already there, or over `base` when there is none. -/
def readNested {α : Type} (r : Routed) (name : String) (base : α)
    (read : α → List (String × Json) → Except Unit α) : Except Unit (Option α) :=
  r.fold name none fun acc v =>
    match v with
    | .null => .ok none
    | .obj ms => (read (acc.getD base) ms).map some
    | _ => .error ()

/-- The members of a body's value, refusing keys outside the fields. -/
def membersFor (names : List String) (v : Json) : Except Unit Routed := do
  let r := route names (← recordMembers v)
  if r.unknown then throw ()
  pure r

def badRequest (msg : String) : Failure := .make .badRequest msg

/-- The weights of a reputation launch, which must be given. -/
def readLaunchWeights (body : List UInt8) : Except Failure Scores := do
  let weights ← Http.decodeBody (fun v => do
    let r ← membersFor ["weights"] v
    readNested r "weights" {} readScores) body
  match weights with
  | some w => pure w
  | none => throw (badRequest "weights are required")

/-- The pillar points of a score update; missing pillars are zero. -/
def readScoreDelta (body : List UInt8) : Except Failure Scores :=
  Http.decodeBody (fun v => do readScores {} (← recordMembers v)) body

/-- The asset and optional governance threshold of a staking launch; the asset must be set. -/
def readStakingLaunch (body : List UInt8) : Except Failure (AssetId × Option Nat) := do
  let (asset, threshold) ← Http.decodeBody (fun v => do
    let r ← membersFor ["asset_id", "governance_threshold"] v
    pure (← r.word "asset_id", ← r.word? "governance_threshold")) body
  if asset == 0 then throw (badRequest "asset_id is required")
  pure (⟨asset⟩, threshold)

/-- The receipt of a deposit; it must be given and name its transfer. -/
def readDeposit (body : List UInt8) : Except Failure Transfer := do
  let t ← Http.decodeBody (fun v => do
    let r ← membersFor ["transfer"] v
    readNested r "transfer" {} readTransfer) body
  match t with
  | none => throw (badRequest "transfer receipt is required")
  | some t => if t.id.isNil then throw (badRequest "transfer id is required") else pure t

def readWithdrawal (body : List UInt8) : Except Failure Nat :=
  Http.decodeBody (fun v => do (← membersFor ["amount"] v).word "amount") body

/-- The receiver and amount of an asset transfer: a valid account and a positive amount. -/
def readAssetTransfer (body : List UInt8) : Except Failure (AccountId × Nat) := do
  let (receiverText, amount) ← Http.decodeBody (fun v => do
    let r ← membersFor ["to", "amount"] v
    pure (← r.text "to", ← r.word "amount")) body
  match AccountId.ofText receiverText with
  | .error _ => throw (badRequest "to must be a valid account id")
  | .ok receiver =>
    if amount == 0 then throw (badRequest "amount must be positive") else pure (receiver, amount)

end CampusLedger.Api
