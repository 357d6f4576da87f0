import CampusLedger.Identifier
import CampusLedger.Time.Instant
import CampusLedger.Json.Value
/-!
# Audit events

An event records one committed ledger operation: which ledger, which action, the account and
the acting caller, the moved amount and the resulting figure, and the request it served. The
category says what the action changes: registration changes the registry, initialization the
lifecycle, and everything else a balance.

In JSON the identifier, category, timestamp, ledger and action are always written; account,
actor, amount, value and request are written only when set.

The journal keeps stored events in the order they were appended. Listing by account gives the
account's events oldest first; listing recent events gives the newest first, as many as the
limit asks, or all of them when the limit is not positive.
-/

namespace CampusLedger.Audit

inductive LedgerName where
  | reputation
  | staking
  deriving DecidableEq, Repr, Inhabited

def LedgerName.name : LedgerName → String
  | .reputation => "reputation"
  | .staking => "staking"

/-- The category of an action: `registry` for registration, `lifecycle` for initialization,
and `balance` for every other action, known or not. -/
def category (action : String) : String :=
  if action == "account_registered" then "registry"
  else if action == "ledger_initialized" then "lifecycle"
  else "balance"

/-- One committed ledger operation. -/
structure Event where
  id : Uuid := Uuid.nil
  category : String := ""
  timestamp : Instant := ⟨0⟩
  ledger : LedgerName
  action : String
  account : AccountId := ⟨""⟩
  actor : AccountId := ⟨""⟩
  amount : Nat := 0
  value : Nat := 0
  requestId : String := ""
  deriving DecidableEq, Repr, Inhabited

/-- The event's JSON object, with unset optional members left out. -/
def Event.toJson (e : Event) : Json :=
  let opt (cond : Bool) (k : String) (v : Json) : List (String × Json) :=
    if cond then [(k, v)] else []
  .obj ([("id", .str e.id.toText), ("category", .str e.category),
    ("timestamp", .time e.timestamp), ("ledger", .str e.ledger.name),
    ("action", .str e.action)] ++
    opt (!e.account.name.isEmpty) "account" (.str e.account.name) ++
    opt (!e.actor.name.isEmpty) "actor_id" (.str e.actor.name) ++
    opt (e.amount != 0) "amount" (.nat e.amount) ++
    opt (e.value != 0) "value" (.nat e.value) ++
    opt (!e.requestId.isEmpty) "request_id" (.str e.requestId))


/-- Stored events, oldest first. -/
structure Journal where
  events : List Event := []
  deriving Inhabited

namespace Journal

def append (j : Journal) (e : Event) : Journal := { events := j.events ++ [e] }

/-- The events of an account, oldest first. -/
def byAccount (j : Journal) (account : AccountId) : List Event :=
  j.events.filter (·.account == account)

/-- The newest events first, at most `limit` of them when it is positive. -/
def recent (j : Journal) (limit : Int) : List Event :=
  if limit ≤ 0 then j.events.reverse else j.events.reverse.take limit.toNat

end Journal

end CampusLedger.Audit
