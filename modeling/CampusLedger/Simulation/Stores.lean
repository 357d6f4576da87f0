import CampusLedger.Api.Body
/-!
# Store probes

Two probes of a ledger's store, each on a fresh ledger owned by `controller` whose stake is
held by `escrow`; `rep` names the reputation ledger and `stake` the staking ledger.

A view probe calls one method of the store that a view hands out. Reads work, and every write
is refused by the read-only store as being in the wrong state. The account a probe looks up or
writes is `alice`, registered at the start of 2024.

A contention probe runs a transaction that holds the snapshot's write lock for `hold`
milliseconds and meanwhile a second operation whose deadline is `wait` milliseconds away. A
second transaction checks its deadline again once it has the lock, so it fails whenever the
lock is held up to its deadline; a second view checks its deadline only before it waits for
the lock, so it waits and succeeds.
-/

namespace CampusLedger.Simulation

open Ledger

def probeAccount : AccountId := ⟨"alice"⟩

/-- The moment a probe's account is registered: 2024-01-01T00:00:00Z. -/
def probeMoment : Instant := Instant.ofSeconds 1704067200

def unknownMethod (method : String) : Failure := .note ("unknown method " ++ method)

def unknownLedger (ledger : String) : Failure := .note ("unknown ledger " ++ ledger)

/-- A write's outcome: nothing to report once it succeeds. -/
def written {β : Type} (r : Except RecordFault β) : Except Failure Json :=
  match r with
  | .ok _ => .ok .null
  | .error f => .error (.record f)

def reputationView (b : Reputation.Book) (method : String) : Except Failure Json :=
  let account : Reputation.Account :=
    { id := probeAccount, registeredAt := probeMoment, updatedAt := probeMoment }
  match method with
  | "LoadConfig" => .ok b.loadConfig.toJson
  | "SaveConfig" => written (b.saveConfig .readOnly b.config)
  | "CreateAccount" => written (b.createAccount .readOnly account)
  | "FindAccount" =>
    match b.findAccount probeAccount with
    | .ok a => .ok a.toJson
    | .error f => .error (.record f)
  | "SaveAccount" => written (b.saveAccount .readOnly account)
  | "FindAccounts" => .ok (.obj [("found", .nat (b.findAccounts [probeAccount]).length)])
  | _ => .error (unknownMethod method)

def stakingView (b : Staking.Book) (method : String) : Except Failure Json :=
  let account : Staking.Account :=
    { id := probeAccount, registeredAt := probeMoment, updatedAt := probeMoment }
  match method with
  | "LoadConfig" => .ok b.loadConfig.toJson
  | "SaveConfig" => written (b.saveConfig .readOnly b.config)
  | "CreateAccount" => written (b.createAccount .readOnly account)
  | "FindAccount" =>
    match b.findAccount probeAccount with
    | .ok a => .ok a.toJson
    | .error f => .error (.record f)
  | "SaveAccount" => written (b.saveAccount .readOnly account)
  | "RecordDeposit" =>
    let deposit : Transfer := { asset := ⟨1⟩, source := probeAccount, target := ⟨"escrow"⟩, amount := 1 }
    written (b.recordDeposit .readOnly deposit)
  | _ => .error (unknownMethod method)

/-- Calls a store method through a view of a fresh ledger. -/
def viewProbe (ledger method : String) : Except Failure Json :=
  match ledger with
  | "rep" => reputationView (Reputation.Book.fresh ⟨"controller"⟩) method
  | "stake" => stakingView (Staking.Book.fresh ⟨"controller"⟩ ⟨"escrow"⟩) method
  | _ => .error (unknownLedger ledger)

inductive Contender where
  | transaction
  | view
  deriving DecidableEq, Repr

/-- The contender a probe names: `update` for a transaction, `view` for a view. -/
def Contender.ofText? : String → Option Contender
  | "update" => some .transaction
  | "view" => some .view
  | _ => none

def deadlinePassed (what : String) : Failure :=
  .wrapCoded .timeout (what ++ ": context cancelled") (.context .deadlineExceeded)

/-- The outcome of a second operation that starts while a transaction holds the write lock for
`hold` milliseconds, with its deadline `wait` milliseconds away. -/
def contend (hold wait : Int) : Contender → Except Failure Unit
  | .transaction => if wait ≤ max hold 0 then .error (deadlinePassed "transaction aborted") else .ok ()
  | .view => if wait ≤ 0 then .error (deadlinePassed "read aborted") else .ok ()

/-- Runs a contention probe on a ledger: refused for an unknown ledger or contender, else the
second operation's outcome, the first always succeeding. -/
def contentionProbe (ledger second : String) (hold wait : Int) :
    Except Failure (Except Failure Unit) :=
  if ledger != "rep" && ledger != "stake" then .error (unknownLedger ledger)
  else match Contender.ofText? second with
    | some c => .ok (contend hold wait c)
    | none => .error (.note ("unknown second operation " ++ second))

end CampusLedger.Simulation
