import CampusLedger.Api.Call
/-!
# Asset routes

Balances are open; opting in and transferring need an authenticated caller, who is always the
holder that opts in or the sender. Bank refusals are answered by their kind: an unknown asset
is not found, a receiver that has not opted in, a zero amount or a transfer to oneself is
invalid input, a short balance is an insufficient balance, and a holding that would overflow is
an overflow. Any other bank failure is internal.
-/

namespace CampusLedger.Api

open Http

def bankProblem (e : Failure) : Failure :=
  match e with
  | .bank .unknownAsset => .make .notFound BankFault.unknownAsset.text
  | .bank .notOptedIn => .make .invalidInput BankFault.notOptedIn.text
  | .bank .invalidAmount => .make .invalidInput BankFault.invalidAmount.text
  | .bank .selfTransfer => .make .invalidInput BankFault.selfTransfer.text
  | .bank .insufficientFunds => .make .insufficientBalance BankFault.insufficientFunds.text
  | .bank .supplyOverflow => .make .overflow BankFault.supplyOverflow.text
  | e => .wrapCoded .internal "asset operation failed" e

/-- Runs a bank act, reporting its failures by kind. -/
def viaBank {α : Type} (x : Act α) : Act α :=
  tryCatch x fun e => throw (if isPanic e then e else bankProblem e)

def balanceJson (asset : AssetId) (holder : AccountId) (balance : Nat) : Json :=
  .obj [("asset_id", .nat asset.id), ("holder", .str holder.name), ("balance", .nat balance)]

namespace AssetRoutes

def balance : Handler := fun c =>
  checked c.asset fun asset =>
    checked c.account fun holder =>
      respond (viaBank (Act.balance asset holder)) fun n => .ofJson 200 (balanceJson asset holder n)

def optIn : Handler := fun c =>
  checked c.requireCaller fun caller =>
    checked c.asset fun asset =>
      respond (viaBank (do Act.optIn asset caller; Act.balance asset caller)) fun n =>
        .ofJson 200 (balanceJson asset caller n)

def transfer : Handler := fun c =>
  checked c.requireCaller fun caller =>
    checked c.asset fun asset =>
      checked (readAssetTransfer c.body) fun (receiver, amount) =>
        respond (viaBank (Act.transfer asset caller receiver amount)) fun t => .ofJson 201 t.toJson

end AssetRoutes

end CampusLedger.Api
