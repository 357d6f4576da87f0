import CampusLedger.Proofs.CheckOrder
/-!
# Every operation fails at its first failing check

Each mutating operation of the two ledgers is written here as the list of its checks, in the
order it makes them, and its outcome is the verdict of that list: the code and message of the
first check that fails, or success when none does. The orders are:

* a registration refuses an empty caller, then a cancelled request, then an account that is
  already registered;
* a launch refuses a cancelled request, then any caller but the controller, then a ledger
  already launched; the staking launch then refuses asset 0 and an escrow opt-in that the bank
  refuses;
* a score update refuses a cancelled request, a caller that is not the controller, an
  unlaunched ledger, an unknown account, then a delta that overflows a pillar or the composite;
* a stake refuses a cancelled request, an unlaunched ledger, a deposit of the wrong shape (the
  asset, the receiver, a zero amount, the escrow as sender, a sender other than the caller, in
  that order), an unknown account, an unsettled receipt, a transfer already credited, then an
  overflow of the balance or of the total;
* a withdrawal refuses a cancelled request, an unlaunched ledger, a zero amount, an unknown
  account, an amount the balance does not cover, then an outbound transfer that the bank
  refuses.

Each lemma holds on a campus where no call site is armed, the audit queue is open and the
registries are keyed, whatever the books, the bank and the inputs; every run of calls from
fresh books keeps all three (`operations_fail_at_first_failing_check`).
-/

namespace CampusLedger

open Act Ledger

namespace Staking

open Act

variable {c : Campus} {b : Book}

def registerChecks (ctx : Context) (caller : AccountId) (b : Book) : List Check :=
  [Check.failIf caller.isZero .invalidInput "caller is required", Check.live ctx,
   Check.failIf (b.accounts.contains caller) .alreadyRegistered "account is already registered"]

/-- The checks of a launch on an asset, in order: the last is the escrow's opt-in. -/
def launchChecks (ctx : Context) (caller : AccountId) (asset : AssetId) (b : Book)
    (bank : Asset.Bank) : List Check :=
  [Check.live ctx, Check.controller b.config.guard caller, Check.unlaunched b.config.guard,
   Check.failIf (asset.id == 0) .invalidInput "asset id cannot be zero",
   Check.bank "escrow opt-in failed" (bank.optIn asset b.config.escrow)]

/-- The checks of a stake, in order: the receipt's shape, the caller's record, the receipt in the
bank and in the books, then the sums. -/
def stakeChecks (ctx : Context) (caller : AccountId) (d : Transfer) (b : Book) (bank : Asset.Bank) :
    List Check :=
  Check.live ctx :: Check.launched b.config.guard :: b.config.depositChecks caller d ++
    Check.registered (b.accounts.find? caller).isSome ::
      (b.accounts.find? caller).elim [] fun a =>
        Check.failIf (!bank.settled d) .invalidDeposit "deposit transfer has not settled" ::
          Check.failIf (b.deposits.any (·.id == d.id)) .invalidDeposit
            "deposit transfer was already credited" :: a.creditChecks b.config d.amount

/-- The checks of a withdrawal, in order: the amount, the caller's record, then the payment out
of the escrow. -/
def withdrawChecks (ctx : Context) (caller : AccountId) (amount : Nat) (b : Book) (c : Campus) :
    List Check :=
  Check.live ctx :: Check.launched b.config.guard ::
    Check.failIf (amount == 0) .invalidInput "withdraw amount must be positive" ::
    Check.registered (b.accounts.find? caller).isSome ::
      (b.accounts.find? caller).elim [] fun a =>
        a.debitChecks amount ++
          [Check.bank "withdraw transfer failed" (c.bank.transfer b.config.asset b.config.escrow
            caller amount (Uuid.numbered (c.issued + 1)))]

theorem reported_registerTx (hz : ∀ s, c.faults.countOf s = 0) (ctx : Context)
    (caller : AccountId) (b : Book) :
    reported ((Tx.register ctx caller b).exec c).1 =
      Check.verdict [Check.failIf (b.accounts.contains caller) .alreadyRegistered
        "account is already registered"] := by
  unfold Tx.register OnStaking.createAccount
  rw [step_bind, step_tryCatch, step_stakingWrite (hz _)]
  simp only [Book.createAccount, Access.write, Registry.register]
  cases hcon : b.accounts.contains caller
  · -- a fresh account is filed, and the configuration is read
    simp only [Account.fresh, hcon, Bool.false_eq_true, if_false, Except.map, Except.mapError]
    rw [reported_step_ok (internally_ok.mpr (exec_stakeLoadConfig_zero (hz _)))]
    rfl
  · simp only [Account.fresh, hcon, if_true, Except.map, Except.mapError, step_throw]
    rfl

theorem reported_launchTx (hz : ∀ s, c.faults.countOf s = 0) (caller : AccountId)
    (asset : AssetId) (threshold : Nat) (ctx : Context) :
    reported ((Tx.launch caller asset threshold b).exec c).1 =
      Check.verdict (launchChecks ctx caller asset b c.bank).tail := by
  unfold Tx.launch
  rw [reported_step_ok (internally_ok.mpr (exec_stakeLoadConfig_zero (hz _))),
    reported_step_check, Guard.reported_canInitialize]
  dsimp only
  rw [reported_step_throwIf, reported_step_ok (internally_ok.mpr (exec_stakeSaveConfig_zero (hz _) rfl)),
    reported_step_bank (exec_optIn_zero (hz _) _ _)]
  simp only [launchChecks, List.tail_cons, Check.bank_map, ← Check.verdict_append,
    List.cons_append, List.nil_append]
  rfl

theorem reported_stakeTx (hz : ∀ s, c.faults.countOf s = 0) (hk : b.accounts.Keyed Account.id)
    (ctx : Context) (caller : AccountId) (d : Transfer) :
    reported ((Tx.stake ctx caller d b).exec c).1 =
      Check.verdict (stakeChecks ctx caller d b c.bank).tail := by
  unfold Tx.stake
  rw [reported_step_ok (internally_ok.mpr (exec_stakeLoadConfig_zero (hz _))),
    reported_step_check, Guard.reported_requireInitialized, reported_step_check,
    Config.reported_checkDeposit, reported_step_stakeFind (hz _)]
  cases hfind : b.accounts.find? caller with
  | none =>
    simp only [stakeChecks, hfind, List.tail_cons, Option.elim, Option.isSome_none,
      Check.verdict_bind_pass, ← Check.verdict_append, List.cons_append]
    rfl
  | some a =>
    -- the receipt is looked up in the bank, which answers without failing
    dsimp only [Option.elim]
    rw [reported_step_ok (assetAccess_ok.mpr (exec_liftSettled_zero (hz _))),
      reported_step_throwIf, reported_step_recordDeposit (hz _) d rfl]
    rw [reported_step_rule (r := a.stake b.loadConfig d.amount ctx.now) (fun e he => ?refused)
      (fun v hv => ?applied), Account.reported_stake]
    · simp only [stakeChecks, hfind, List.tail_cons, Option.elim, Option.isSome_some,
        ← Check.verdict_append, List.cons_append]
      rfl
    case refused =>
      rw [he]
      rfl
    case applied =>
      -- the credited record is filed under the caller, so saving it goes through
      obtain ⟨a', cfg'⟩ := v
      obtain ⟨rfl, rfl, -, -⟩ := Account.stake_ok hv
      obtain ⟨b₃, hs⟩ := Book.saveAccount_of_find (b := { b with deposits := b.deposits ++ [d] })
        hk hfind { a with staked := a.staked + d.amount, updatedAt := ctx.now } rfl
      rw [hv]
      simp only [step_bind, step_pure, accountAccess_ok.mpr (exec_stakeSaveAccount_zero (hz _) hs),
        internally_ok.mpr (exec_stakeSaveConfig_zero (hz _) rfl)]
      exact ⟨_, _, _, rfl⟩

theorem reported_withdrawTx (hz : ∀ s, c.faults.countOf s = 0) (hk : b.accounts.Keyed Account.id)
    (ctx : Context) (caller : AccountId) (amount : Nat) :
    reported ((Tx.withdraw ctx caller amount b).exec c).1 =
      Check.verdict (withdrawChecks ctx caller amount b c).tail := by
  unfold Tx.withdraw
  rw [reported_step_ok (internally_ok.mpr (exec_stakeLoadConfig_zero (hz _))),
    reported_step_check, Guard.reported_requireInitialized, reported_step_throwIf,
    reported_step_stakeFind (hz _)]
  cases hfind : b.accounts.find? caller with
  | none =>
    simp only [withdrawChecks, hfind, List.tail_cons, Option.elim, Option.isSome_none,
      Check.verdict_bind_pass, ← Check.verdict_append, List.cons_append]
    rfl
  | some a =>
    -- the debited record is filed under the caller, so saving it goes through
    obtain ⟨b₃, hs⟩ := Book.saveAccount_of_find hk hfind
      { a with staked := a.staked - amount, updatedAt := ctx.now } rfl
    dsimp only [Option.elim]
    rw [reported_step_check, Account.reported_canWithdraw]
    dsimp only [Account.withdraw]
    rw [reported_step_ok (accountAccess_ok.mpr (exec_stakeSaveAccount_zero (hz _) hs)),
      reported_step_ok (internally_ok.mpr (exec_stakeSaveConfig_zero (hz _) rfl)),
      reported_step_bank (exec_transfer_zero (hz _) _ _ _ _)]
    simp only [withdrawChecks, hfind, List.tail_cons, Option.elim, Option.isSome_some,
      Check.bank_map, ← Check.verdict_append, List.cons_append]
    rfl

theorem reported_register (hz : ∀ s, c.faults.countOf s = 0) (hc : c.outbox.closed = false)
    (ctx : Context) (caller : AccountId) :
    reported ((register ctx caller).exec c).1 = Check.verdict (registerChecks ctx caller c.staking) := by
  unfold register
  rw [reported_service ?steady (fun _ _ hc => ⟨_, report_ok _ _ _ _ hc⟩) hc]
  case steady =>
    split
    · exact within_bind (within_throw _) fun _ =>
        within_stakingTx Frame.steady_untouched.toSteps ctx
          (within_registerTx Frame.steady_untouched.toSteps ctx caller)
    · exact within_stakingTx Frame.steady_untouched.toSteps ctx
        (within_registerTx Frame.steady_untouched.toSteps ctx caller)
  dsimp only
  rw [reported_throwIf, reported_stakingTx (hz _), reported_registerTx hz]
  simp only [registerChecks, ← Check.verdict_append, List.cons_append, List.nil_append]

theorem reported_launch (hz : ∀ s, c.faults.countOf s = 0) (hc : c.outbox.closed = false)
    (ctx : Context) (caller : AccountId) (asset : AssetId) (threshold : Nat) :
    reported ((launch ctx caller asset threshold).exec c).1 =
      Check.verdict (launchChecks ctx caller asset c.staking c.bank) := by
  unfold launch
  rw [reported_service (within_stakingTx Frame.steady_untouched.toSteps ctx
      (within_launchTx Frame.steady_untouched.toSteps caller asset threshold))
    (fun cfg _ hc => ⟨_, emit_pure_ok ctx _ cfg hc⟩) hc,
    reported_stakingTx (hz _), reported_launchTx hz caller asset threshold ctx]
  exact (Check.verdict_append [Check.live ctx] _).symm

theorem reported_stake (hz : ∀ s, c.faults.countOf s = 0) (hc : c.outbox.closed = false)
    (hk : c.staking.accounts.Keyed Account.id) (ctx : Context) (caller : AccountId) (d : Transfer) :
    reported ((stake ctx caller d).exec c).1 =
      Check.verdict (stakeChecks ctx caller d c.staking c.bank) := by
  unfold stake
  rw [reported_service (within_stakingTx Frame.steady_untouched.toSteps ctx
      (within_stakeTx Frame.steady_untouched.toSteps ctx caller d))
    (fun _ _ hc => ⟨_, report_ok _ _ _ _ hc⟩) hc,
    reported_stakingTx (hz _), reported_stakeTx hz hk ctx caller d]
  exact (Check.verdict_append [Check.live ctx] _).symm

theorem reported_withdraw (hz : ∀ s, c.faults.countOf s = 0) (hc : c.outbox.closed = false)
    (hk : c.staking.accounts.Keyed Account.id) (ctx : Context) (caller : AccountId)
    (amount : Nat) :
    reported ((withdraw ctx caller amount).exec c).1 =
      Check.verdict (withdrawChecks ctx caller amount c.staking c) := by
  unfold withdraw
  rw [reported_service (within_stakingTx Frame.steady_untouched.toSteps ctx
      (within_withdrawTx Frame.steady_untouched.toSteps ctx caller amount))
    (fun _ _ hc => ⟨_, report_ok _ _ _ _ hc⟩) hc,
    reported_stakingTx (hz _), reported_withdrawTx hz hk ctx caller amount]
  exact (Check.verdict_append [Check.live ctx] _).symm

end Staking

namespace Reputation

open Act

variable {c : Campus} {b : Book}

def registerChecks (ctx : Context) (caller : AccountId) (b : Book) : List Check :=
  [Check.failIf caller.isZero .invalidInput "caller is required", Check.live ctx,
   Check.failIf (b.accounts.contains caller) .alreadyRegistered "account is already registered"]

def launchChecks (ctx : Context) (caller : AccountId) (b : Book) : List Check :=
  [Check.live ctx, Check.controller b.config.guard caller, Check.unlaunched b.config.guard]

/-- The checks of a score update, in order: the caller, the ledger, the account, then the sums. -/
def updateChecks (ctx : Context) (caller account : AccountId) (delta : Scores) (b : Book) :
    List Check :=
  Check.live ctx :: Check.controller b.config.guard caller :: Check.launched b.config.guard ::
    Check.registered (b.accounts.find? account).isSome ::
      (b.accounts.find? account).elim [] fun a => [a.scores.deltaCheck delta b.config.weights]

theorem reported_registerTx (hz : ∀ s, c.faults.countOf s = 0) (ctx : Context)
    (caller : AccountId) (b : Book) :
    reported ((Tx.register ctx caller b).exec c).1 =
      Check.verdict [Check.failIf (b.accounts.contains caller) .alreadyRegistered
        "account is already registered"] := by
  unfold Tx.register OnReputation.createAccount
  rw [step_bind, step_tryCatch, step_reputationWrite (hz _)]
  simp only [Book.createAccount, Access.write, Registry.register]
  cases hcon : b.accounts.contains caller
  · -- a fresh account is filed, and the configuration is read
    simp only [Account.fresh, hcon, Bool.false_eq_true, if_false, Except.map, Except.mapError]
    rw [reported_step_ok (internally_ok.mpr (exec_repLoadConfig_zero (hz _)))]
    rfl
  · simp only [Account.fresh, hcon, if_true, Except.map, Except.mapError, step_throw]
    rfl

theorem reported_launchTx (hz : ∀ s, c.faults.countOf s = 0) (caller : AccountId)
    (weights : Scores) (ctx : Context) :
    reported ((Tx.launch caller weights b).exec c).1 =
      Check.verdict (launchChecks ctx caller b).tail := by
  unfold Tx.launch
  rw [reported_step_ok (internally_ok.mpr (exec_repLoadConfig_zero (hz _)))]
  have hcan := Ledger.Guard.reported_canInitialize b.loadConfig.guard caller
  dsimp only
  rcases hr : b.loadConfig.guard.canInitialize caller with e | u <;> rw [hr] at hcan
  · exact hcan
  · -- the guard passes, and the new configuration is saved
    dsimp only
    rw [reported_step_ok (internally_ok.mpr (exec_repSaveConfig_zero (hz _) _))]
    exact hcan

theorem reported_updateTx (hz : ∀ s, c.faults.countOf s = 0) (hk : b.accounts.Keyed Account.id)
    (ctx : Context) (caller account : AccountId) (delta : Scores) :
    reported ((Tx.update ctx caller account delta b).exec c).1 =
      Check.verdict (updateChecks ctx caller account delta b).tail := by
  unfold Tx.update
  rw [reported_step_ok (internally_ok.mpr (exec_repLoadConfig_zero (hz _)))]
  have hpriv := Ledger.Guard.reported_requirePrivileged b.loadConfig.guard caller
  show _ = Check.verdict
    ([Check.controller b.loadConfig.guard caller, Check.launched b.loadConfig.guard] ++ _)
  rw [Check.verdict_append, ← hpriv]
  dsimp only
  rcases hr : b.loadConfig.guard.requirePrivileged caller with e | u
  · rfl
  · dsimp only
    rw [reported_step_repFind (hz _)]
    cases hfind : b.accounts.find? account with
    | none =>
      simp only [Option.elim, Option.isSome_none, Check.verdict_bind_pass]
      rfl
    | some a =>
      dsimp only [Option.elim]
      rw [reported_step_rule (r := a.applyDelta delta b.loadConfig.weights ctx.now)
        (fun e he => ?refused) (fun v hv => ?applied), Account.reported_applyDelta]
      · simp only [Option.isSome_some, ← Check.verdict_append, List.cons_append,
          List.nil_append]
        rfl
      case refused =>
        rw [he]
        rfl
      case applied =>
        -- the new record is filed under the account, so saving it goes through
        obtain ⟨b', hs⟩ := Book.saveAccount_of_find hk hfind _ (Account.applyDelta_ok hv).1
        rw [hv]
        simp only [step_bind, step_pure, accountAccess_ok.mpr (exec_repSaveAccount_zero (hz _) hs)]
        exact ⟨_, _, _, rfl⟩

theorem reported_register (hz : ∀ s, c.faults.countOf s = 0) (hc : c.outbox.closed = false)
    (ctx : Context) (caller : AccountId) :
    reported ((register ctx caller).exec c).1 =
      Check.verdict (registerChecks ctx caller c.reputation) := by
  unfold register
  rw [reported_service ?steady (fun _ _ hc => ⟨_, report_ok _ _ _ _ hc⟩) hc]
  case steady =>
    split
    · exact within_bind (within_throw _) fun _ =>
        within_reputationTx Frame.steady_untouched.toSteps ctx
          (within_registerTx Frame.steady_untouched.toSteps ctx caller)
    · exact within_reputationTx Frame.steady_untouched.toSteps ctx
        (within_registerTx Frame.steady_untouched.toSteps ctx caller)
  dsimp only
  rw [reported_throwIf, reported_reputationTx (hz _), reported_registerTx hz]
  simp only [registerChecks, ← Check.verdict_append, List.cons_append, List.nil_append]

theorem reported_launch (hz : ∀ s, c.faults.countOf s = 0) (hc : c.outbox.closed = false)
    (ctx : Context) (caller : AccountId) (weights : Scores) :
    reported ((launch ctx caller weights).exec c).1 =
      Check.verdict (launchChecks ctx caller c.reputation) := by
  unfold launch
  rw [reported_service (within_reputationTx Frame.steady_untouched.toSteps ctx
      (within_launchTx Frame.steady_untouched.toSteps caller weights))
    (fun cfg _ hc => ⟨_, emit_pure_ok ctx _ cfg hc⟩) hc,
    reported_reputationTx (hz _), reported_launchTx hz caller weights ctx]
  exact (Check.verdict_append [Check.live ctx] _).symm

theorem reported_updateScores (hz : ∀ s, c.faults.countOf s = 0) (hc : c.outbox.closed = false)
    (hk : c.reputation.accounts.Keyed Account.id) (ctx : Context) (caller account : AccountId)
    (delta : Scores) :
    reported ((updateScores ctx caller account delta).exec c).1 =
      Check.verdict (updateChecks ctx caller account delta c.reputation) := by
  unfold updateScores
  rw [reported_service (within_reputationTx Frame.steady_untouched.toSteps ctx
      (within_updateTx Frame.steady_untouched.toSteps ctx caller account delta))
    (fun r _ hc => ⟨_, emit_pure_ok ctx _ r hc⟩) hc,
    reported_reputationTx (hz _), reported_updateTx hz hk ctx caller account delta]
  exact (Check.verdict_append [Check.live ctx] _).symm

end Reputation

/-- No call arms a call site: a campus with none armed keeps none armed along every run. -/
theorem Campus.unarmed_after {c : Campus} (hz : ∀ s, c.faults.countOf s = 0) (calls : List Call) :
    ∀ s, (c.after calls).faults.countOf s = 0 :=
  Campus.after_induction (fun c => ∀ s, c.faults.countOf s = 0)
    (fun k c hc s => (k.within Frame.steady_untouched c).2 s (hc s)) hz calls

/-- On every campus that a run of calls reaches from fresh books, each operation of the two
ledgers fails with the code and message of the first of its checks that fails, in the order
listed for it, and succeeds when none fails. -/
theorem operations_fail_at_first_failing_check (w : Wiring) (ttl : Int) (calls : List Call) :
    let c := (Campus.fresh w ttl).after calls
    (∀ ctx caller, reported ((Staking.register ctx caller).exec c).1 =
        Check.verdict (Staking.registerChecks ctx caller c.staking)) ∧
      (∀ ctx caller asset threshold,
        reported ((Staking.launch ctx caller asset threshold).exec c).1 =
          Check.verdict (Staking.launchChecks ctx caller asset c.staking c.bank)) ∧
      (∀ ctx caller d, reported ((Staking.stake ctx caller d).exec c).1 =
        Check.verdict (Staking.stakeChecks ctx caller d c.staking c.bank)) ∧
      (∀ ctx caller amount, reported ((Staking.withdraw ctx caller amount).exec c).1 =
        Check.verdict (Staking.withdrawChecks ctx caller amount c.staking c)) ∧
      (∀ ctx caller, reported ((Reputation.register ctx caller).exec c).1 =
        Check.verdict (Reputation.registerChecks ctx caller c.reputation)) ∧
      (∀ ctx caller weights, reported ((Reputation.launch ctx caller weights).exec c).1 =
        Check.verdict (Reputation.launchChecks ctx caller c.reputation)) ∧
      (∀ ctx caller account delta,
        reported ((Reputation.updateScores ctx caller account delta).exec c).1 =
          Check.verdict (Reputation.updateChecks ctx caller account delta c.reputation)) := by
  intro c
  have hz : ∀ s, c.faults.countOf s = 0 := Campus.unarmed_after (fun _ => rfl) calls
  have hc : c.outbox.closed = false := Campus.open_after rfl calls
  have hks : c.staking.accounts.Keyed Staking.Account.id :=
    (Campus.after_induction (fun c => Staking.Balanced c.staking)
      (fun k _ hb => k.keeps_balanced hb) (Staking.fresh_balanced w.controller w.escrow) calls).keyed
  have hkr : c.reputation.accounts.Keyed Reputation.Account.id :=
    (Registered.after (registered_start rfl rfl) calls).keyed
  exact ⟨Staking.reported_register hz hc, Staking.reported_launch hz hc,
    Staking.reported_stake hz hc hks, Staking.reported_withdraw hz hc hks,
    Reputation.reported_register hz hc, Reputation.reported_launch hz hc,
    Reputation.reported_updateScores hz hc hkr⟩

/-- A cancelled launch by a caller that is not the controller times out: the request's liveness
is checked before the caller. -/
theorem cancelled_launch_by_stranger_times_out :
    Check.controller (Campus.fresh {} 0).staking.config.guard ⟨"mallory"⟩ =
        .error (.unauthorized, "caller is not the ledger controller") ∧
      reported ((Staking.launch { now := ⟨0⟩, cancelled := true } ⟨"mallory"⟩ ⟨7⟩ 10).exec
        (Campus.fresh {} 0)).1 = .error (some (.timeout, "transaction aborted: context cancelled")) :=
  ⟨rfl, rfl⟩

end CampusLedger
