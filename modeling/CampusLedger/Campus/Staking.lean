import CampusLedger.Campus.Reputation
/-!
# The staking service

The staking service registers accounts, launches the ledger on an asset with a governance
threshold, credits deposits and pays out withdrawals through the bank, and answers reads. A
deposit is a bank receipt sent by the caller to the escrow: it is credited once, and only when
the bank settled exactly that transfer. A withdrawal is paid from the escrow back to the caller
inside the transaction, so a payment the bank refuses changes nothing in the ledger.

Bank failures are reported as invalid input when the asset does not exist or the receiver has
not opted in, and as internal failures otherwise.

The dashboard shows one account across both ledgers: its scores and composite when the
reputation ledger knows it, and its staked balance and vote weight when the staking ledger
does. An account unknown to both is not registered with any ledger; any other failed read
fails the dashboard.
-/

namespace CampusLedger

/-- Acts inside a staking transaction or view, on its books. -/
abbrev OnStaking := StateT Staking.Book Act

namespace OnStaking

open Ledger

def stored {α : Type} : Except RecordFault α → OnStaking α
  | .ok a => pure a
  | .error f => throw (.record f)

def loadConfig : OnStaking Staking.Config := do
  Act.faultAt "stake.LoadConfig"
  pure (← get).loadConfig

def saveConfig (access : Access) (c : Staking.Config) : OnStaking Unit := do
  Act.faultAt "stake.SaveConfig"
  set (← stored ((← get).saveConfig access c))

def createAccount (access : Access) (a : Staking.Account) : OnStaking Unit := do
  Act.faultAt "stake.CreateAccount"
  set (← stored ((← get).createAccount access a))

def findAccount (id : AccountId) : OnStaking Staking.Account := do
  Act.faultAt "stake.FindAccount"
  stored ((← get).findAccount id)

def saveAccount (access : Access) (a : Staking.Account) : OnStaking Unit := do
  Act.faultAt "stake.SaveAccount"
  set (← stored ((← get).saveAccount access a))

def recordDeposit (access : Access) (t : Transfer) : OnStaking Unit := do
  Act.faultAt "stake.RecordDeposit"
  set (← stored ((← get).recordDeposit access t))

end OnStaking

namespace Act

/-- Runs a body in a transaction on the staking books, committing them when it succeeds. -/
def stakingTx {α : Type} (ctx : Context) (body : OnStaking α) : Act α := do
  faultAt "stake.RunInTx"
  checkContext ctx "transaction aborted"
  let (a, book) ← body.run (← get).staking
  modify fun c => { c with staking := book }
  pure a

def stakingView {α : Type} (ctx : Context) (body : OnStaking α) : Act α := do
  faultAt "stake.View"
  checkContext ctx "read aborted"
  let (a, _) ← body.run (← get).staking
  pure a

def assetFailure (msg : String) (e : Failure) : Failure :=
  match e with
  | .bank .unknownAsset => .wrapCoded .invalidInput "asset does not exist" e
  | .bank .notOptedIn => .wrapCoded .invalidInput "receiver has not opted in to the asset" e
  | e => .wrapCoded .internal msg e

def assetAccess {m : Type → Type} [Monad m] [MonadExcept Failure m] {α : Type} (msg : String)
    (x : m α) : m α :=
  tryCatch x fun e => throw (assetFailure msg e)

def check {m : Type → Type} [Monad m] [MonadExcept Failure m] : Except Failure Unit → m Unit
  | .ok () => pure ()
  | .error e => throw e

end Act

namespace Staking

open Act

/-- The transaction of a registration: the new record and the number of accounts after it. -/
def Tx.register (ctx : Context) (caller : AccountId) : OnStaking (Account × Nat) := do
  let a := Account.fresh caller ctx.now
  tryCatch (OnStaking.createAccount .readWrite a) fun e =>
    match e with
    | .record .alreadyUsed => throw (.make .alreadyRegistered "account is already registered")
    | e => throw (.wrapCoded .internal "failed to register account" e)
  let cfg ← internally "failed to load config" OnStaking.loadConfig
  pure (a, cfg.totalUsers)

def register (ctx : Context) (caller : AccountId) : Act Account := do
  let (account, users) ← instrumented "staking" "register" do
    if caller.isZero then throw (.make .invalidInput "caller is required")
    stakingTx ctx (Tx.register ctx caller)
  meter fun r => r.set "ccms_staking_total_users" [] (Float.ofNat users)
  emit ctx { ledger := .staking, action := "account_registered", account := caller }
  pure account

/-- The transaction of a launch: the configuration it saves, after opting the escrow in. -/
def Tx.launch (caller : AccountId) (asset : AssetId) (threshold : Nat) :
    OnStaking Config := do
  let c ← internally "failed to load config" OnStaking.loadConfig
  check (c.guard.canInitialize caller)
  if asset.id == 0 then throw (.make .invalidInput "asset id cannot be zero")
  let c := { c with asset, threshold, guard := c.guard.markInitialized }
  internally "failed to save config" (OnStaking.saveConfig .readWrite c)
  assetAccess "escrow opt-in failed" (liftM (optIn asset c.escrow) : OnStaking Unit)
  pure c

def launch (ctx : Context) (caller : AccountId) (asset : AssetId) (threshold : Nat) :
    Act Config := do
  let cfg ← instrumented "staking" "initialize" (stakingTx ctx (Tx.launch caller asset threshold))
  emit ctx { ledger := .staking, action := "ledger_initialized", actor := caller, value := threshold }
  pure cfg

/-- The transaction of a stake: the caller's new staked balance and the new total. -/
def Tx.stake (ctx : Context) (caller : AccountId) (deposit : Transfer) :
    OnStaking (Nat × Nat) := do
  let cfg ← internally "failed to load config" OnStaking.loadConfig
  check cfg.guard.requireInitialized
  check (cfg.checkDeposit caller deposit)
  let a ← accountAccess (OnStaking.findAccount caller)
  let ok ← assetAccess "failed to verify deposit" (liftM (settled deposit) : OnStaking Bool)
  if !ok then throw (.make .invalidDeposit "deposit transfer has not settled")
  tryCatch (OnStaking.recordDeposit .readWrite deposit) fun e =>
    match e with
    | .record .alreadyUsed =>
      throw (.make .invalidDeposit "deposit transfer was already credited")
    | e => throw (.wrapCoded .internal "failed to record deposit" e)
  let (a, cfg) ← match a.stake cfg deposit.amount ctx.now with
    | .ok r => pure r
    | .error e => throw e
  accountAccess (OnStaking.saveAccount .readWrite a)
  internally "failed to save config" (OnStaking.saveConfig .readWrite cfg)
  pure (a.staked, cfg.totalStaked)

/-- Credits a settled deposit to the caller, giving the new staked balance. -/
def stake (ctx : Context) (caller : AccountId) (deposit : Transfer) : Act Nat := do
  let (balance, total) ← instrumented "staking" "stake"
    (stakingTx ctx (Tx.stake ctx caller deposit))
  meter fun r =>
    (r.set "ccms_staking_total_staked" [] (Float.ofNat total)).add
      "ccms_staking_moved_units_total" ["in"] (Float.ofNat deposit.amount)
  emit ctx { ledger := .staking, action := "staked", account := caller, amount := deposit.amount,
             value := balance }
  pure balance

/-- The transaction of a withdrawal: the caller's new staked balance and the new total, after
paying the amount out of the escrow. -/
def Tx.withdraw (ctx : Context) (caller : AccountId) (amount : Nat) :
    OnStaking (Nat × Nat) := do
  let cfg ← internally "failed to load config" OnStaking.loadConfig
  check cfg.guard.requireInitialized
  if amount == 0 then throw (.make .invalidInput "withdraw amount must be positive")
  let a ← accountAccess (OnStaking.findAccount caller)
  check (a.canWithdraw amount)
  let (a, cfg) := a.withdraw cfg amount ctx.now
  accountAccess (OnStaking.saveAccount .readWrite a)
  internally "failed to save config" (OnStaking.saveConfig .readWrite cfg)
  let _ ← assetAccess "withdraw transfer failed"
    (liftM (transfer cfg.asset cfg.escrow caller amount) : OnStaking Transfer)
  pure (a.staked, cfg.totalStaked)

/-- Pays `amount` of the caller's stake back from the escrow, giving the new staked balance. -/
def withdraw (ctx : Context) (caller : AccountId) (amount : Nat) : Act Nat := do
  let (balance, total) ← instrumented "staking" "withdraw"
    (stakingTx ctx (Tx.withdraw ctx caller amount))
  meter fun r =>
    (r.set "ccms_staking_total_staked" [] (Float.ofNat total)).add
      "ccms_staking_moved_units_total" ["out"] (Float.ofNat amount)
  emit ctx { ledger := .staking, action := "withdrawn", account := caller, amount,
             value := balance }
  pure balance

def stakeOf (ctx : Context) (account : AccountId) : Act Nat :=
  stakingView ctx do
    let a ← accountAccess (OnStaking.findAccount account)
    pure a.staked

def voteWeightOf (ctx : Context) (account : AccountId) : Act Nat :=
  stakingView ctx do
    let cfg ← internally "failed to load config" OnStaking.loadConfig
    let a ← accountAccess (OnStaking.findAccount account)
    pure (cfg.voteWeight a.staked)

def config (ctx : Context) : Act Config :=
  stakingView ctx (internally "failed to load config" OnStaking.loadConfig)

/-- The ledger's books beside the escrow's holding. -/
def reconcile (ctx : Context) : Act Reconciliation := do
  let r ← stakingView ctx do
    let cfg ← internally "failed to load config" OnStaking.loadConfig
    check cfg.guard.requireInitialized
    let holding ← assetAccess "failed to read escrow holding"
      (liftM (balance cfg.asset cfg.escrow) : OnStaking Nat)
    pure { asset := cfg.asset, escrow := cfg.escrow, totalStaked := cfg.totalStaked,
           escrowHolding := holding : Reconciliation }
  meter fun m =>
    m.set "ccms_staking_reconcile_drift_units" []
      (Float.ofNat r.escrowHolding - Float.ofNat r.totalStaked)
  pure r

end Staking

end CampusLedger

namespace CampusLedger.Dashboard

structure View where
  account : AccountId
  reputation : Option (Scores × Nat) := none
  staking : Option (Nat × Nat) := none
  deriving Inhabited

/-- Reads that find no account give nothing instead of failing. -/
def unlessUnknown {α : Type} (x : Act α) : Act (Option α) :=
  tryCatch (some <$> x) fun e => if e.hasCode .unknownAccount then pure none else throw e

def view (ctx : Context) (account : AccountId) : Act View := do
  let scores ← unlessUnknown (Reputation.scoresOf ctx account)
  let stake ← unlessUnknown (Staking.stakeOf ctx account)
  let weight ← unlessUnknown (Staking.voteWeightOf ctx account)
  let staking := match stake, weight with
    | some s, some w => some (s, w)
    | _, _ => none
  let reputation := scores.map fun a => (a.scores, a.composite)
  if reputation.isNone && staking.isNone then
    throw (.make .unknownAccount "account is not registered with any ledger")
  pure { account, reputation, staking }

end CampusLedger.Dashboard
