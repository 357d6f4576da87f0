import CampusLedger.Ledger.Guard
import CampusLedger.Identifier
import CampusLedger.Time.Instant
import CampusLedger.Word
/-!
# The staking ledger's records

Accounts stake units of one asset by sending them to the escrow and presenting the receipt.
The configuration fixes the escrow at creation and the staked asset and the governance
threshold at initialization, and keeps the total staked over all accounts.

A deposit is checked in order: the staked asset, sent to the escrow, a positive amount, not
sent by the escrow itself, and sent by the caller. A balance at or above the threshold votes
with weight two, any other with weight one.
-/

namespace CampusLedger.Staking

/-- The threshold before initialization sets one. -/
def defaultThreshold : Nat := 10

structure Config where
  guard : Ledger.Guard
  escrow : AccountId
  asset : AssetId := ⟨0⟩
  threshold : Nat := defaultThreshold
  totalStaked : Nat := 0
  totalUsers : Nat := 0
  deriving DecidableEq, Repr, Inhabited

structure Account where
  id : AccountId
  staked : Nat := 0
  registeredAt : Instant
  updatedAt : Instant
  deriving DecidableEq, Repr, Inhabited

namespace Config

/-- A fresh configuration: uninitialized, nothing staked. -/
def fresh (controller escrow : AccountId) : Config := { guard := ⟨controller, false⟩, escrow }

/-- The vote weight of a staked balance: two at or above the threshold, else one. -/
def voteWeight (c : Config) (staked : Nat) : Nat := if staked ≥ c.threshold then 2 else 1

/-- Checks the shape of a deposit presented by `caller`, naming the first mismatch. -/
def checkDeposit (c : Config) (caller : AccountId) (t : Transfer) : Except Failure Unit :=
  if t.asset != c.asset then .error (.make .invalidDeposit "deposit is not the staked asset")
  else if t.target != c.escrow then
    .error (.make .invalidDeposit "deposit must be sent to the escrow")
  else if t.amount == 0 then .error (.make .invalidDeposit "deposit amount must be positive")
  else if t.source == c.escrow then
    .error (.make .invalidDeposit "escrow cannot stake its own holding")
  else if t.source != caller then
    .error (.make .invalidDeposit "deposit must be sent by the caller")
  else .ok ()

end Config

namespace Account

def fresh (id : AccountId) (now : Instant) : Account :=
  { id, registeredAt := now, updatedAt := now }

/-- Credits `amount` to the account and to the total; an overflow of either changes nothing. -/
def stake (a : Account) (c : Config) (amount : Nat) (now : Instant) :
    Except Failure (Account × Config) :=
  match Word.add a.staked amount with
  | .error f => .error (.wrapCoded .overflow "staked balance overflows" (.arith f))
  | .ok balance =>
    match Word.add c.totalStaked amount with
    | .error f => .error (.wrapCoded .overflow "total staked overflows" (.arith f))
    | .ok total => .ok ({ a with staked := balance, updatedAt := now }, { c with totalStaked := total })

/-- Checks that a withdrawal is positive and covered by the balance. -/
def canWithdraw (a : Account) (amount : Nat) : Except Failure Unit :=
  if amount == 0 then .error (.make .invalidInput "withdraw amount must be positive")
  else if a.staked < amount then
    .error (.make .insufficientBalance "withdraw amount exceeds staked balance")
  else .ok ()

def withdraw (a : Account) (c : Config) (amount : Nat) (now : Instant) : Account × Config :=
  ({ a with staked := a.staked - amount, updatedAt := now },
    { c with totalStaked := c.totalStaked - amount })

end Account

/-- The ledger's books beside the escrow's holding of the staked asset. -/
structure Reconciliation where
  asset : AssetId
  escrow : AccountId
  totalStaked : Nat
  escrowHolding : Nat
  deriving DecidableEq, Repr

namespace Reconciliation

/-- Every held unit is owed to a staker and every owed unit is held. -/
def balanced (r : Reconciliation) : Bool := r.totalStaked == r.escrowHolding

/-- The escrow holds at least what is owed to stakers. -/
def covered (r : Reconciliation) : Bool := r.escrowHolding ≥ r.totalStaked

end Reconciliation

end CampusLedger.Staking
