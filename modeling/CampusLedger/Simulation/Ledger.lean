import CampusLedger.Simulation.Session
import CampusLedger.Metrics.Exposition
/-!
# Ledger steps

The steps that call the services, the bank, the audit publisher and the activity handler
directly. Identifiers pass through as given: only the HTTP layer checks them.
-/

namespace CampusLedger.Simulation

open Play

/-- Reads pillar words from an object; missing pillars are zero. -/
def scoresAt (v : Json) (k : String) : Scores :=
  let o := (v.get? k).getD .null
  { attendance := o.natAt "attendance", voting := o.natAt "voting", feedback := o.natAt "feedback",
    certification := o.natAt "certification" }

def accountAt (v : Json) (k : String) : AccountId := ⟨v.textAt k⟩

/-- The message an activity step or record carries: its `value` text whenever it has one, even
an empty one, else its `event` sent as its text (a null event is the text `null`). -/
def messageText (step : Json) : List UInt8 :=
  match step.get? "value", step.get? "event" with
  | some (.str t), _ => t.toUTF8.toList
  | _, some v => v.compact.toUTF8.toList
  | _, none => []

/-- The result of handling an activity event: the outcome counted and the failure reported. -/
def handledJson (metered : Bool) (h : Activity.Handled) : Json :=
  .obj [("outcome", if metered then .str ((h.outcome.map (·.name)).getD "") else .null),
    ("returned_error", match h.failure with
      | some e => .str e.text
      | none => .null)]

/-- Reads every outcome counter of the activity handler, which brings each one into the
registry at zero. -/
def readOutcomeCounters : Act Unit := do
  if (← get).wiring.activityMetered then
    Act.meter fun r =>
      [Activity.Outcome.applied, .duplicate, .malformed, .rejected, .failed].foldl
        (fun r o => r.add "ccms_activity_events_total" [o.name] 0) r

def reputationStep (ctx : Context) (kind : String) (step : Json) : Option (Play Json) :=
  match kind with
  | "rep.register" => some do
    let a ← onCampus (Reputation.register ctx (accountAt step "caller"))
    pure a.toJson
  | "rep.initialize" => some do
    let c ← onCampus (Reputation.launch ctx (accountAt step "caller") (scoresAt step "weights"))
    pure c.toJson
  | "rep.update" => some do
    let n ← onCampus (Reputation.updateScores ctx (accountAt step "caller") (accountAt step "account")
      (scoresAt step "delta"))
    pure (.obj [("composite", .nat n)])
  | "rep.composite" => some do
    let a ← onCampus (Reputation.scoresOf ctx (accountAt step "account"))
    pure (.obj [("composite", .nat a.composite)])
  | "rep.scores" => some do
    let a ← onCampus (Reputation.scoresOf ctx (accountAt step "account"))
    pure a.toJson
  | "rep.composites" => some do
    let ids := (step.listAt "accounts").map fun v => match v with
      | .str s => (⟨s⟩ : AccountId)
      | _ => ⟨""⟩
    let cs ← onCampus (Reputation.composites ctx ids)
    pure (.obj [("composites", compositesJson cs)])
  | "rep.config" => some do
    let c ← onCampus (Reputation.config ctx)
    pure c.toJson
  | _ => none

def stakingStep (ctx : Context) (kind : String) (step : Json) : Option (Play Json) :=
  match kind with
  | "stk.register" => some do
    let a ← onCampus (Staking.register ctx (accountAt step "caller"))
    pure a.toJson
  | "stk.initialize" => some do
    let c ← onCampus (Staking.launch ctx (accountAt step "caller") ⟨step.natAt "asset_id"⟩
      (step.natAt "threshold"))
    pure c.toJson
  | "stk.stake" => some do
    let t ← transferOf ((step.get? "transfer").getD .null)
    let n ← onCampus (Staking.stake ctx (accountAt step "caller") t)
    pure (.obj [("staked_balance", .nat n)])
  | "stk.withdraw" => some do
    let n ← onCampus (Staking.withdraw ctx (accountAt step "caller") (step.natAt "amount"))
    pure (.obj [("staked_balance", .nat n)])
  | "stk.stake_of" => some do
    let n ← onCampus (Staking.stakeOf ctx (accountAt step "account"))
    pure (.obj [("staked_balance", .nat n)])
  | "stk.vote_weight" => some do
    let n ← onCampus (Staking.voteWeightOf ctx (accountAt step "account"))
    pure (.obj [("vote_weight", .nat n)])
  | "stk.config" => some do
    let c ← onCampus (Staking.config ctx)
    pure c.toJson
  | "stk.reconcile" => some do
    let r ← onCampus (Staking.reconcile ctx)
    pure r.toJson
  | _ => none

def bankStep (kind : String) (step : Json) : Option (Play Json) :=
  let asset : AssetId := ⟨step.natAt "asset_id"⟩
  match kind with
  | "bank.mint" => some do
    onCampus (Act.mint asset (accountAt step "issuer") (step.natAt "supply"))
    pure (.obj [("minted", .bool true)])
  | "bank.opt_in" => some do
    onCampus (Act.optIn asset (accountAt step "holder"))
    pure (.obj [("opted_in", .bool true)])
  | "bank.transfer" => some do
    let t ← onCampus (Act.transfer asset (accountAt step "from") (accountAt step "to")
      (step.natAt "amount"))
    let k ← keepReceipt t
    pure (.obj [("receipt", .nat k), ("transfer", t.toJson)])
  | "bank.settled" => some do
    let t ← transferOf ((step.get? "transfer").getD .null)
    let ok ← onCampus (Act.settled t)
    pure (.obj [("settled", .bool ok)])
  | "bank.balance" => some do
    let n ← onCampus (Act.balance asset (accountAt step "holder"))
    pure (.obj [("balance", .nat n)])
  | _ => none

def campusStep (ctx : Context) (kind : String) (step : Json) : Option (Play Json) :=
  match kind with
  | "dashboard" => some do
    let v ← onCampus (Dashboard.view ctx (accountAt step "account"))
    pure v.toJson
  | "history.account" => some do
    let es := (← get).campus.journal.byAccount (accountAt step "account")
    pure (.obj [("events", eventsJson es)])
  | "history.recent" => some do
    let es := (← get).campus.journal.recent (step.intAt "limit")
    pure (.obj [("events", eventsJson es)])
  | "activity" => some do
    let text := messageText step
    onCampus readOutcomeCounters
    let h ← onCampus (Activity.handle ctx text)
    pure (handledJson (← get).campus.wiring.activityMetered h)
  | "fault" => some do
    let site := step.textAt "name"
    let count := if step.has "count" then step.intAt "count" else -1
    modify fun s => { s with campus := { s.campus with faults := s.campus.faults.arm site count } }
    pure (.obj [("fault", .str site)])
  | "heal" => some do
    let site := step.textAt "name"
    modify fun s => { s with campus := { s.campus with faults := s.campus.faults.heal site } }
    pure (.obj [("healed", .str site)])
  | "audit.hold" => some do
    modify fun s => { s with campus := { s.campus with outbox := { s.campus.outbox with held := true } } }
    pure (.obj [("held", .bool true)])
  | "audit.release" => some do
    onCampus Act.releaseAudit
    pure (.obj [("held", .bool false)])
  | "audit.close" => some do
    onCampus Act.closeAudit
    pure (.obj [("closed", .bool true)])
  | "audit.list" => some do
    onCampus (Act.faultAt "audit.ListByAccount")
    let es := (← get).campus.journal.byAccount (accountAt step "account")
    pure (.obj [("events", eventsJson es)])
  | "metrics" => some do
    let c := (← get).campus
    if !c.wiring.metered then bad "scenario has no metrics"
    pure c.metrics.snapshot
  | "audit.clear" => some do
    modify fun s => { s with campus := { s.campus with journal := {} } }
    pure (.obj [("cleared", .bool true)])
  | _ => none

end CampusLedger.Simulation
