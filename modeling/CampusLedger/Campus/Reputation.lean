import CampusLedger.Campus.Basic
/-!
# The reputation service

The reputation service registers accounts, launches the ledger with its pillar weights, applies
score deltas and answers reads. Mutations run in a transaction over the ledger's books and
publish one audit event each once committed; reads run in a view of the committed books.

Store failures are reported as internal failures naming the step that failed, except the
facts the service answers for itself: a taken account is already registered, and a missing
one is not registered. A transaction or view that cannot start fails as it is.
-/

namespace CampusLedger

/-- Acts inside a reputation transaction or view, on its books. -/
abbrev OnReputation := StateT Reputation.Book Act

namespace OnReputation

open Ledger

def stored {α : Type} : Except RecordFault α → OnReputation α
  | .ok a => pure a
  | .error f => throw (.record f)

def loadConfig : OnReputation Reputation.Config := do
  Act.faultAt "rep.LoadConfig"
  pure (← get).loadConfig

def saveConfig (access : Access) (c : Reputation.Config) : OnReputation Unit := do
  Act.faultAt "rep.SaveConfig"
  set (← stored ((← get).saveConfig access c))

def createAccount (access : Access) (a : Reputation.Account) : OnReputation Unit := do
  Act.faultAt "rep.CreateAccount"
  set (← stored ((← get).createAccount access a))

def findAccount (id : AccountId) : OnReputation Reputation.Account := do
  Act.faultAt "rep.FindAccount"
  stored ((← get).findAccount id)

def saveAccount (access : Access) (a : Reputation.Account) : OnReputation Unit := do
  Act.faultAt "rep.SaveAccount"
  set (← stored ((← get).saveAccount access a))

/-- The records of the registered accounts among `ids`. -/
def findAccounts (ids : List AccountId) : OnReputation (List Reputation.Account) := do
  Act.faultAt "rep.FindAccounts"
  pure ((← get).findAccounts ids)

end OnReputation

namespace Act

/-- Wraps any failure of `x` as an internal failure with a message. -/
def internally {m : Type → Type} [Monad m] [MonadExcept Failure m] {α : Type} (msg : String)
    (x : m α) : m α :=
  tryCatch x fun e => throw (.wrapCoded .internal msg e)

/-- The failure of a missing account, or an internal one for any other store failure. -/
def accountFailure (e : Failure) : Failure :=
  match e with
  | .record .notFound => .make .unknownAccount "account is not registered"
  | e => .wrapCoded .internal "failed to access account" e

def accountAccess {m : Type → Type} [Monad m] [MonadExcept Failure m] {α : Type} (x : m α) : m α :=
  tryCatch x fun e => throw (accountFailure e)

/-- Runs a body in a transaction on the reputation books, committing them when it succeeds. -/
def reputationTx {α : Type} (ctx : Context) (body : OnReputation α) : Act α := do
  faultAt "rep.RunInTx"
  checkContext ctx "transaction aborted"
  let (a, book) ← body.run (← get).reputation
  modify fun c => { c with reputation := book }
  pure a

/-- Runs a body in a view of the committed reputation books. -/
def reputationView {α : Type} (ctx : Context) (body : OnReputation α) : Act α := do
  faultAt "rep.View"
  checkContext ctx "read aborted"
  let (a, _) ← body.run (← get).reputation
  pure a

/-- Counts an operation of a ledger under its outcome: `ok`, or the failure's code. -/
def observeOperation (ledger : String) (op : String) (outcome : String) : Act Unit :=
  meter fun r =>
    (r.inc ("ccms_" ++ ledger ++ "_operations_total") [op, outcome]).observe
      ("ccms_" ++ ledger ++ "_operation_duration_seconds") [op]

def instrumented {α : Type} (ledger : String) (op : String) (body : Act α) : Act α := do
  let a ← tryCatch body fun e => do
    observeOperation ledger op e.code.name
    throw e
  observeOperation ledger op "ok"
  pure a

end Act

namespace Reputation

open Act

/-- The transaction of a registration: the new record and the number of accounts after it. -/
def Tx.register (ctx : Context) (caller : AccountId) : OnReputation (Account × Nat) := do
  let a := Account.fresh caller ctx.now
  tryCatch (OnReputation.createAccount .readWrite a) fun e =>
    match e with
    | .record .alreadyUsed => throw (.make .alreadyRegistered "account is already registered")
    | e => throw (.wrapCoded .internal "failed to register account" e)
  let cfg ← internally "failed to load config" OnReputation.loadConfig
  pure (a, cfg.totalUsers)

def register (ctx : Context) (caller : AccountId) : Act Account := do
  let (account, users) ← instrumented "reputation" "register" do
    if caller.isZero then throw (.make .invalidInput "caller is required")
    reputationTx ctx (Tx.register ctx caller)
  meter fun r => r.set "ccms_reputation_total_users" [] (Float.ofNat users)
  emit ctx { ledger := .reputation, action := "account_registered", account := caller }
  pure account

def Tx.launch (caller : AccountId) (weights : Scores) : OnReputation Config := do
  let c ← internally "failed to load config" OnReputation.loadConfig
  match c.guard.canInitialize caller with
  | .error e => throw e
  | .ok () => pure ()
  let c := { c with weights, guard := c.guard.markInitialized }
  internally "failed to save config" (OnReputation.saveConfig .readWrite c)
  pure c

def launch (ctx : Context) (caller : AccountId) (weights : Scores) : Act Config := do
  let cfg ← instrumented "reputation" "initialize" (reputationTx ctx (Tx.launch caller weights))
  emit ctx { ledger := .reputation, action := "ledger_initialized", actor := caller }
  pure cfg

/-- The transaction of a score update: the account's new composite. -/
def Tx.update (ctx : Context) (caller account : AccountId) (delta : Scores) :
    OnReputation Nat := do
  let cfg ← internally "failed to load config" OnReputation.loadConfig
  match cfg.guard.requirePrivileged caller with
  | .error e => throw e
  | .ok () => pure ()
  let a ← accountAccess (OnReputation.findAccount account)
  let a ← match a.applyDelta delta cfg.weights ctx.now with
    | .ok a => pure a
    | .error e => throw e
  accountAccess (OnReputation.saveAccount .readWrite a)
  pure a.composite

def updateScores (ctx : Context) (caller account : AccountId) (delta : Scores) : Act Nat := do
  let composite ← instrumented "reputation" "update_scores"
    (reputationTx ctx (Tx.update ctx caller account delta))
  emit ctx { ledger := .reputation, action := "scores_updated", account, actor := caller,
             value := composite }
  pure composite

def scoresOf (ctx : Context) (account : AccountId) : Act Account :=
  reputationView ctx (accountAccess (OnReputation.findAccount account))

def composites (ctx : Context) (ids : List AccountId) : Act (List (AccountId × Nat)) := do
  if ids.isEmpty then return []
  let found ← reputationView ctx (internally "failed to load accounts" (OnReputation.findAccounts ids))
  pure (found.foldl (fun acc a =>
    if acc.any (·.1 == a.id) then acc.map fun p => if p.1 == a.id then (a.id, a.composite) else p
    else acc ++ [(a.id, a.composite)]) [])

def config (ctx : Context) : Act Config :=
  reputationView ctx (internally "failed to load config" OnReputation.loadConfig)

end Reputation

end CampusLedger
