import CampusLedger.Identifier
import CampusLedger.Failure
import CampusLedger.Word
/-!
# The asset bank

The bank keeps fungible assets. Minting an asset gives its whole supply to the issuer; a holder
must opt in to an asset before receiving it; a transfer moves units between two different
holders and is kept as a receipt under a fresh identifier.

A transfer is refused, in this order, for a zero amount, for equal sender and receiver, for an
unknown asset, for a receiver that has not opted in, for a sender holding too little, and for a
receiver whose holding would leave the 64-bit words. A receipt is settled when the bank executed
a transfer equal to it in every field.
-/

namespace CampusLedger.Asset

/-- One minted asset: its issuer and the holders that opted in, with their balances. -/
structure Issue where
  asset : AssetId
  issuer : AccountId
  holdings : List (AccountId × Nat)
  deriving DecidableEq, Repr, Inhabited

def Issue.balance? (i : Issue) (holder : AccountId) : Option Nat :=
  (i.holdings.find? (·.1 == holder)).map (·.2)

/-- Sets a holder's balance, adding the holder when new. -/
def Issue.setBalance (i : Issue) (holder : AccountId) (n : Nat) : Issue :=
  if i.holdings.any (·.1 == holder) then
    { i with holdings := i.holdings.map fun p => if p.1 == holder then (holder, n) else p }
  else { i with holdings := i.holdings ++ [(holder, n)] }

/-- The bank: minted assets and executed transfers, oldest first. -/
structure Bank where
  issues : List Issue := []
  transfers : List Transfer := []
  deriving Repr, Inhabited

namespace Bank

def issue? (b : Bank) (asset : AssetId) : Option Issue := b.issues.find? (·.asset == asset)

def setIssue (b : Bank) (i : Issue) : Bank :=
  { b with issues := b.issues.map fun j => if j.asset == i.asset then i else j }

/-- Mints an asset; refused when it exists. -/
def mint (b : Bank) (asset : AssetId) (issuer : AccountId) (supply : Nat) :
    Except BankFault Bank :=
  if (b.issue? asset).isSome then .error .assetExists
  else .ok { b with issues := b.issues ++ [{ asset, issuer, holdings := [(issuer, supply)] }] }

/-- Opts a holder in to an asset, keeping any balance it has. -/
def optIn (b : Bank) (asset : AssetId) (holder : AccountId) : Except BankFault Bank :=
  match b.issue? asset with
  | none => .error .unknownAsset
  | some i =>
    if (i.balance? holder).isSome then .ok b else .ok (b.setIssue (i.setBalance holder 0))

/-- Executes a transfer under the identifier `id`, giving its receipt. -/
def transfer (b : Bank) (asset : AssetId) (source target : AccountId) (amount : Nat) (id : Uuid) :
    Except BankFault (Bank × Transfer) :=
  if amount == 0 then .error .invalidAmount
  else if source == target then .error .selfTransfer
  else
    match b.issue? asset with
    | none => .error .unknownAsset
    | some i =>
      match i.balance? target with
      | none => .error .notOptedIn
      | some toBalance =>
        match Word.sub ((i.balance? source).getD 0) amount with
        | .error _ => .error .insufficientFunds
        | .ok fromBalance =>
          match Word.add toBalance amount with
          | .error _ => .error .supplyOverflow
          | .ok toBalance' =>
            let i' := (i.setBalance source fromBalance).setBalance target toBalance'
            let t : Transfer := { id, asset, source, target, amount }
            .ok ({ b.setIssue i' with transfers := b.transfers ++ [t] }, t)

/-- Whether the bank executed a transfer equal to the receipt. -/
def settled (b : Bank) (t : Transfer) : Bool :=
  match b.transfers.find? (·.id == t.id) with
  | some recorded => recorded == t
  | none => false

/-- A holder's balance of an asset; zero for a holder that never opted in. -/
def balance (b : Bank) (asset : AssetId) (holder : AccountId) : Except BankFault Nat :=
  match b.issue? asset with
  | none => .error .unknownAsset
  | some i => .ok ((i.balance? holder).getD 0)

end Bank

end CampusLedger.Asset
