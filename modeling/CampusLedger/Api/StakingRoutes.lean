import CampusLedger.Api.Call
/-!
# Staking routes

Reads of the staking ledger are open; registering, launching, staking and withdrawing need an
authenticated caller. A launch without a governance threshold takes the default one.
-/

namespace CampusLedger.Api

open Http

def stakeJson (account : AccountId) (balance : Nat) : Json :=
  .obj [("account", .str account.name), ("staked_balance", .nat balance)]

namespace StakingRoutes

def config : Handler := fun c =>
  respond (Staking.config c.ctx) fun cfg => .ofJson 200 cfg.toJson

def reconcile : Handler := fun c =>
  respond (Staking.reconcile c.ctx) fun r => .ofJson 200 r.toJson

def stakeOf : Handler := fun c =>
  checked c.account fun account =>
    respond (Staking.stakeOf c.ctx account) fun n => .ofJson 200 (stakeJson account n)

def voteWeight : Handler := fun c =>
  checked c.account fun account =>
    respond (Staking.voteWeightOf c.ctx account) fun n =>
      .ofJson 200 (.obj [("account", .str account.name), ("vote_weight", .nat n)])

def register : Handler := fun c =>
  checked c.requireCaller fun caller =>
    respond (Staking.register c.ctx caller) fun a => .ofJson 201 a.toJson

def launch : Handler := fun c =>
  checked c.requireCaller fun caller =>
    checked (readStakingLaunch c.body) fun (asset, threshold) =>
      respond (Staking.launch c.ctx caller asset (threshold.getD Staking.defaultThreshold)) fun cfg =>
        .ofJson 200 cfg.toJson

def deposit : Handler := fun c =>
  checked c.requireCaller fun caller =>
    checked (readDeposit c.body) fun t =>
      respond (Staking.stake c.ctx caller t) fun n => .ofJson 200 (stakeJson caller n)

def withdraw : Handler := fun c =>
  checked c.requireCaller fun caller =>
    checked (readWithdrawal c.body) fun amount =>
      respond (Staking.withdraw c.ctx caller amount) fun n => .ofJson 200 (stakeJson caller n)

end StakingRoutes

end CampusLedger.Api
