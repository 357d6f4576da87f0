import CampusLedger.Api.Call
/-!
# Reputation routes

Reads of the reputation ledger are open; registering, launching and updating scores need an
authenticated caller. A batch of composites names between one and a hundred distinct accounts,
each trimmed of blanks, and leaves out the ones that are not registered.
-/

namespace CampusLedger.Api

open Http

def maxBatchAccounts : Nat := 100

def compositeJson (account : AccountId) (composite : Nat) : Json :=
  .obj [("account", .str account.name), ("composite", .nat composite)]

namespace ReputationRoutes

def config : Handler := fun c =>
  respond (Reputation.config c.ctx) fun cfg => .ofJson 200 cfg.toJson

def composites : Handler := fun c =>
  let raw := Text.distinctTrimmedOctets (c.queryValues "account")
  if raw.isEmpty then pure (.ofFailure (badRequest "at least one account is required"))
  else if raw.length > maxBatchAccounts then
    pure (.ofFailure (badRequest ("at most " ++ toString maxBatchAccounts ++ " accounts per request")))
  else
    checked (raw.mapM AccountId.parse) fun ids =>
      respond (Reputation.composites c.ctx ids) fun cs =>
        .ofJson 200 (.obj [("composites", compositesJson cs)])

def composite : Handler := fun c =>
  checked c.account fun account =>
    respond (Reputation.scoresOf c.ctx account) fun a => .ofJson 200 (compositeJson account a.composite)

def scores : Handler := fun c =>
  checked c.account fun account =>
    respond (Reputation.scoresOf c.ctx account) fun a => .ofJson 200 a.toJson

def register : Handler := fun c =>
  checked c.requireCaller fun caller =>
    respond (Reputation.register c.ctx caller) fun a => .ofJson 201 a.toJson

def launch : Handler := fun c =>
  checked c.requireCaller fun caller =>
    checked (readLaunchWeights c.body) fun weights =>
      respond (Reputation.launch c.ctx caller weights) fun cfg => .ofJson 200 cfg.toJson

def update : Handler := fun c =>
  checked c.requireCaller fun caller =>
    checked c.account fun account =>
      checked (readScoreDelta c.body) fun delta =>
        respond (Reputation.updateScores c.ctx caller account delta) fun n =>
          .ofJson 200 (compositeJson account n)

end ReputationRoutes

end CampusLedger.Api
