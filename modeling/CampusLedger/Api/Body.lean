import CampusLedger.Campus.Staking
import CampusLedger.Campus.Activity
/-!
# Response bodies

The JSON bodies that describe ledger records, configurations, receipts and dashboards. Times
are RFC 3339 text and words are plain integers.
-/

namespace CampusLedger

def Scores.toJson (s : Scores) : Json :=
  .obj [("attendance", .nat s.attendance), ("voting", .nat s.voting),
    ("feedback", .nat s.feedback), ("certification", .nat s.certification)]

def Transfer.toJson (t : Transfer) : Json :=
  .obj [("id", .str t.id.toText), ("asset_id", .nat t.asset.id), ("from", .str t.source.name),
    ("to", .str t.target.name), ("amount", .nat t.amount)]

def Reputation.Account.toJson (a : Reputation.Account) : Json :=
  .obj [("account", .str a.id.name), ("scores", a.scores.toJson), ("composite", .nat a.composite),
    ("registered_at", .time a.registeredAt), ("updated_at", .time a.updatedAt)]

def Reputation.Config.toJson (c : Reputation.Config) : Json :=
  .obj [("controller", .str c.guard.controller.name), ("initialized", .bool c.guard.initialized),
    ("weights", c.weights.toJson), ("total_users", .nat c.totalUsers)]

def Staking.Account.toJson (a : Staking.Account) : Json :=
  .obj [("account", .str a.id.name), ("staked_balance", .nat a.staked),
    ("registered_at", .time a.registeredAt), ("updated_at", .time a.updatedAt)]

def Staking.Config.toJson (c : Staking.Config) : Json :=
  .obj [("controller", .str c.guard.controller.name), ("escrow", .str c.escrow.name),
    ("initialized", .bool c.guard.initialized), ("asset_id", .nat c.asset.id),
    ("governance_threshold", .nat c.threshold), ("total_staked", .nat c.totalStaked),
    ("total_users", .nat c.totalUsers)]

def Staking.Reconciliation.toJson (r : Staking.Reconciliation) : Json :=
  .obj [("asset_id", .nat r.asset.id), ("escrow", .str r.escrow.name),
    ("total_staked", .nat r.totalStaked), ("escrow_holding", .nat r.escrowHolding),
    ("balanced", .bool r.balanced), ("covered", .bool r.covered)]

/-- A dashboard; a ledger that does not know the account is left out. -/
def Dashboard.View.toJson (v : Dashboard.View) : Json :=
  .obj ([("account", .str v.account.name)] ++
    (match v.reputation with
      | some (s, c) => [("reputation", .obj [("scores", s.toJson), ("composite", .nat c)])]
      | none => []) ++
    (match v.staking with
      | some (b, w) => [("staking", .obj [("staked_balance", .nat b), ("vote_weight", .nat w)])]
      | none => []))

def compositesJson (cs : List (AccountId × Nat)) : Json :=
  .obj (cs.map fun (a, n) => (a.name, .nat n))

def eventsJson (es : List Audit.Event) : Json := .arr (es.map (·.toJson))

end CampusLedger
