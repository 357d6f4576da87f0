import CampusLedger.Proofs.Outcomes
import CampusLedger.Proofs.Books
/-!
# What a live request is told

A request whose context is not cancelled, on a campus where no fault is armed, reaches the
ledger's own checks: the transaction starts and every store step and bank read runs. Its failure
is then the one those checks give. Three of them are evaluated here: a score update on unlaunched
books is refused by the guard, as unauthorized for anyone but the controller and as not
initialized for the controller; a stake that presents a receipt whose transfer is already
credited is an invalid deposit; and a second registration of an account is refused as already
registered.
-/

namespace CampusLedger

open Act Ledger

namespace Act

variable {α β σ : Type} {c c₁ : Campus}

theorem trip_unarmed {f : Faults} (hf : f.armed = []) (site : String) : f.trip site = (false, f) := by
  simp [Faults.trip, Faults.countOf, hf]

theorem exec_faultAt_unarmed (hf : c.faults.armed = []) (site : String) :
    (faultAt site).exec c = (.ok (), c) := by
  rw [exec_faultAt, trip_unarmed hf]
  rfl

theorem step_guarded_unarmed {f : Unit → StateT σ Act α} {b : σ} (hf : c.faults.armed = [])
    (site : String) : ((liftM (faultAt site) >>= f : StateT σ Act α) b).exec c = (f () b).exec c := by
  rw [step_bind, step_lift, exec_faultAt_unarmed hf]

theorem exec_checkContext_live {ctx : Context} (hl : ctx.cancelled = false) (what : String) :
    (checkContext ctx what).exec c = (.ok (), c) := by
  simp [checkContext, hl]

/-- A live transaction on an unarmed campus fails as its body fails. -/
theorem stakingTx_error_live {ctx : Context} {body : OnStaking α} {e : Failure}
    (hf : c.faults.armed = []) (hl : ctx.cancelled = false)
    (h : (body c.staking).exec c = (.error e, c₁)) : (stakingTx ctx body).exec c = (.error e, c₁) := by
  unfold stakingTx
  rw [exec_bind, exec_faultAt_unarmed hf]
  dsimp only
  rw [exec_bind, exec_checkContext_live hl]
  dsimp only
  rw [exec_bind, exec_get]
  dsimp only
  rw [exec_bind, show StateT.run body c.staking = body c.staking from rfl, h]

theorem reputationTx_error_live {ctx : Context} {body : OnReputation α} {e : Failure}
    (hf : c.faults.armed = []) (hl : ctx.cancelled = false)
    (h : (body c.reputation).exec c = (.error e, c₁)) :
    (reputationTx ctx body).exec c = (.error e, c₁) := by
  unfold reputationTx
  rw [exec_bind, exec_faultAt_unarmed hf]
  dsimp only
  rw [exec_bind, exec_checkContext_live hl]
  dsimp only
  rw [exec_bind, exec_get]
  dsimp only
  rw [exec_bind, show StateT.run body c.reputation = body c.reputation from rfl, h]

theorem exec_checkContext_cancelled {ctx : Context} (hl : ctx.cancelled = true) (what : String) :
    (checkContext ctx what).exec c =
      (.error (.wrapCoded .timeout (what ++ ": context cancelled") (.context .canceled)), c) := by
  simp [checkContext, hl]

/-- A transaction whose site has a fault armed fails with that fault before its body runs. -/
theorem stakingTx_faulted {ctx : Context} {body : OnStaking α}
    (h : (c.faults.trip "stake.RunInTx").1 = true) :
    (stakingTx ctx body).exec c =
      (.error (.injected "stake.RunInTx"), { c with faults := (c.faults.trip "stake.RunInTx").2 }) := by
  unfold stakingTx
  rw [exec_bind, exec_faultAt, if_pos h]

/-- A cancelled request whose transaction passes its fault site times out before the
transaction's body runs. -/
theorem stakingTx_cancelled {ctx : Context} {body : OnStaking α}
    (ht : (c.faults.trip "stake.RunInTx").1 = false) (hl : ctx.cancelled = true) :
    (stakingTx ctx body).exec c = (.error (.wrapCoded .timeout
      "transaction aborted: context cancelled" (.context .canceled)), c) := by
  unfold stakingTx
  rw [exec_bind, exec_faultAt]
  simp only [ht, Bool.false_eq_true, ↓reduceIte]
  rw [exec_bind, exec_checkContext_cancelled hl]
  rfl

theorem reputationTx_faulted {ctx : Context} {body : OnReputation α}
    (h : (c.faults.trip "rep.RunInTx").1 = true) :
    (reputationTx ctx body).exec c =
      (.error (.injected "rep.RunInTx"), { c with faults := (c.faults.trip "rep.RunInTx").2 }) := by
  unfold reputationTx
  rw [exec_bind, exec_faultAt, if_pos h]

theorem reputationTx_cancelled {ctx : Context} {body : OnReputation α}
    (ht : (c.faults.trip "rep.RunInTx").1 = false) (hl : ctx.cancelled = true) :
    (reputationTx ctx body).exec c = (.error (.wrapCoded .timeout
      "transaction aborted: context cancelled" (.context .canceled)), c) := by
  unfold reputationTx
  rw [exec_bind, exec_faultAt]
  simp only [ht, Bool.false_eq_true, ↓reduceIte]
  rw [exec_bind, exec_checkContext_cancelled hl]
  rfl

/-- An operation whose transaction fails returns that failure. -/
theorem service_error {l o : String} {x : Act α} {post : α → Act β} {e : Failure}
    (h : x.exec c = (.error e, c₁)) :
    ((instrumented l o x >>= post >>= fun _ => pure ()).exec c).1 = .error e := by
  rw [exec_drop, exec_bind, exec_instrumented, h]
  rfl

theorem exec_check_ok {b : σ} : ((check (.ok ()) : StateT σ Act Unit) b).exec c = (.ok ((), b), c) :=
  rfl

theorem exec_stakeLoadConfig_unarmed {b : Staking.Book} (hf : c.faults.armed = []) :
    (OnStaking.loadConfig b).exec c = (.ok (b.loadConfig, b), c) := by
  rw [OnStaking.loadConfig, step_guarded_unarmed hf]
  rfl

theorem exec_repLoadConfig_unarmed {b : Reputation.Book} (hf : c.faults.armed = []) :
    (OnReputation.loadConfig b).exec c = (.ok (b.loadConfig, b), c) := by
  rw [OnReputation.loadConfig, step_guarded_unarmed hf]
  rfl

theorem exec_stakeFindAccount_unarmed {b : Staking.Book} {id : AccountId} {a : Staking.Account}
    (hf : c.faults.armed = []) (h : b.findAccount id = .ok a) :
    (OnStaking.findAccount id b).exec c = (.ok (a, b), c) := by
  rw [OnStaking.findAccount, step_guarded_unarmed hf]
  simp only [step_bind, step_get, h]
  rfl

theorem exec_liftSettled_unarmed {b : σ} {t : Transfer} (hf : c.faults.armed = []) :
    ((liftM (settled t) : StateT σ Act Bool) b).exec c = (.ok (c.bank.settled t, b), c) := by
  rw [step_lift, settled, exec_bind, exec_faultAt_unarmed hf]
  rfl

theorem exec_stakeRecordDeposit_used {b : Staking.Book} {t : Transfer} (hf : c.faults.armed = [])
    (h : b.deposits.any (·.id == t.id) = true) :
    (OnStaking.recordDeposit .readWrite t b).exec c = (.error (.record .alreadyUsed), c) := by
  rw [OnStaking.recordDeposit, step_guarded_unarmed hf]
  simp only [step_bind, step_get, Staking.Book.recordDeposit, Access.write, h, if_true]
  rfl

theorem exec_stakeCreateAccount_taken {b : Staking.Book} {a : Staking.Account}
    (hf : c.faults.armed = []) (h : b.accounts.contains a.id = true) :
    (OnStaking.createAccount .readWrite a b).exec c = (.error (.record .alreadyUsed), c) := by
  rw [OnStaking.createAccount, step_guarded_unarmed hf]
  simp only [step_bind, step_get, Staking.Book.createAccount, Access.write, Registry.register, h,
    if_true]
  rfl

theorem exec_repCreateAccount_taken {b : Reputation.Book} {a : Reputation.Account}
    (hf : c.faults.armed = []) (h : b.accounts.contains a.id = true) :
    (OnReputation.createAccount .readWrite a b).exec c = (.error (.record .alreadyUsed), c) := by
  rw [OnReputation.createAccount, step_guarded_unarmed hf]
  simp only [step_bind, step_get, Reputation.Book.createAccount, Access.write, Registry.register, h,
    if_true]
  rfl

end Act

@[simp] theorem Failure.code_make (k : Code) (m : String) : (Failure.make k m).code = k := rfl

/-- On unlaunched books the guard refuses a privileged call: as unauthorized unless the caller is
the controller, and as not initialized for the controller. -/
theorem Ledger.Guard.requirePrivileged_unlaunched {g : Guard} (caller : AccountId)
    (h : g.initialized = false) :
    g.requirePrivileged caller = .error (if caller.isZero || caller != g.controller then
      .make .unauthorized "caller is not the ledger controller"
      else .make .notInitialized "ledger is not initialized") := by
  unfold Guard.requirePrivileged Guard.requireController Guard.requireInitialized
  split <;> simp [bind, Except.bind, h]

/-- Every refusal of a deposit's shape is an invalid deposit. -/
theorem Staking.Config.checkDeposit_error {cfg : Staking.Config} {caller : AccountId}
    {t : Transfer} {e : Failure} (h : cfg.checkDeposit caller t = .error e) :
    e.code = .invalidDeposit := by
  unfold Staking.Config.checkDeposit at h
  split_ifs at h <;> (cases h; rfl)

namespace Staking

open Act

variable {ctx : Context} {caller : AccountId} {c : Campus}

/-- A stake on launched books that presents a receipt whose transfer is already credited is an
invalid deposit, whichever check refuses it, provided that an account that passes the deposit
check is registered. -/
theorem Tx.stake_credited {d : Transfer} {b : Book} (hf : c.faults.armed = [])
    (hinit : b.config.guard.initialized = true) (hused : b.deposits.any (·.id == d.id) = true)
    (hfind : b.loadConfig.checkDeposit caller d = .ok () → ∃ a, b.findAccount caller = .ok a) :
    ∃ e, (Tx.stake ctx caller d b).exec c = (.error e, c) ∧ e.code = .invalidDeposit := by
  unfold Tx.stake
  rw [step_bind, internally, step_tryCatch, exec_stakeLoadConfig_unarmed hf]
  dsimp only
  have hreq : b.loadConfig.guard.requireInitialized = .ok () := by
    rw [Book.loadConfig_guard]
    simp [Guard.requireInitialized, hinit]
  rw [step_bind, hreq, exec_check_ok]
  dsimp only
  rcases hcheck : b.loadConfig.checkDeposit caller d with e | ⟨⟩
  · exact ⟨e, rfl, Config.checkDeposit_error hcheck⟩
  obtain ⟨a, hfound⟩ := hfind hcheck
  rw [step_bind, exec_check_ok]
  dsimp only
  rw [step_bind, accountAccess, step_tryCatch, exec_stakeFindAccount_unarmed hf hfound]
  dsimp only
  rw [step_bind, assetAccess, step_tryCatch, exec_liftSettled_unarmed hf]
  dsimp only
  -- an unsettled receipt is refused before the credit is looked up
  cases hs : c.bank.settled d
  · exact ⟨_, rfl, rfl⟩
  · simp only [Bool.not_true, Bool.false_eq_true, if_false]
    rw [step_bind, step_tryCatch, exec_stakeRecordDeposit_used hf hused]
    exact ⟨_, rfl, rfl⟩

theorem Op.stake_credited {d : Transfer} (hf : c.faults.armed = []) (hl : ctx.cancelled = false)
    (hinit : c.staking.config.guard.initialized = true)
    (hused : c.staking.deposits.any (·.id == d.id) = true)
    (hfind : c.staking.loadConfig.checkDeposit caller d = .ok () →
      ∃ a, c.staking.findAccount caller = .ok a) :
    ∃ e, ((Op.stake ctx caller d).act.exec c).1 = .error e ∧ e.code = .invalidDeposit := by
  obtain ⟨e, hx, he⟩ : ∃ e, (Tx.stake ctx caller d c.staking).exec c = (.error e, c) ∧
      e.code = .invalidDeposit := Tx.stake_credited hf hinit hused hfind
  exact ⟨e, service_error (stakingTx_error_live hf hl hx), he⟩

/-- A registration of a caller that is not empty fails as its transaction fails. -/
theorem Op.register_error {e : Failure} {c₁ : Campus} (hz : caller.isZero = false)
    (hx : (stakingTx ctx (Tx.register ctx caller)).exec c = (.error e, c₁)) :
    ((Op.register ctx caller).act.exec c).1 = .error e := by
  show ((Staking.register ctx caller >>= fun _ => pure ()).exec c).1 = _
  unfold Staking.register
  refine service_error (show _ = (_, c₁) from ?_)
  simp only [hz, Bool.false_eq_true, if_false]
  exact hx

/-- A second registration of an account is refused as already registered. -/
theorem Op.register_taken (hf : c.faults.armed = []) (hl : ctx.cancelled = false)
    (hz : caller.isZero = false) (hreg : c.staking.accounts.contains caller = true) :
    ((Op.register ctx caller).act.exec c).1 =
      .error (.make .alreadyRegistered "account is already registered") := by
  have hx : (Tx.register ctx caller c.staking).exec c =
      (.error (.make .alreadyRegistered "account is already registered"), c) := by
    unfold Tx.register
    rw [step_bind, step_tryCatch, exec_stakeCreateAccount_taken hf hreg]
    rfl
  exact Op.register_error hz (stakingTx_error_live hf hl hx)

end Staking

namespace Reputation

open Act

variable {ctx : Context} {caller : AccountId} {c : Campus}

/-- A score update on unlaunched books is refused by the guard. -/
theorem Op.update_unlaunched {account : AccountId} {delta : Scores} (hf : c.faults.armed = [])
    (hl : ctx.cancelled = false) (h : c.reputation.config.guard.initialized = false) :
    ((Op.update ctx caller account delta).act.exec c).1 =
      .error (if caller.isZero || caller != c.reputation.config.guard.controller then
        .make .unauthorized "caller is not the ledger controller"
        else .make .notInitialized "ledger is not initialized") := by
  have hx : (Tx.update ctx caller account delta c.reputation).exec c =
      (.error (if caller.isZero || caller != c.reputation.config.guard.controller then
        .make .unauthorized "caller is not the ledger controller"
        else .make .notInitialized "ledger is not initialized"), c) := by
    unfold Tx.update
    rw [step_bind, internally, step_tryCatch, exec_repLoadConfig_unarmed hf]
    dsimp only
    rw [Book.loadConfig_guard, Guard.requirePrivileged_unlaunched caller h]
    rfl
  exact service_error (reputationTx_error_live hf hl hx)

/-- A registration of a caller that is not empty fails as its transaction fails. -/
theorem Op.register_error {e : Failure} {c₁ : Campus} (hz : caller.isZero = false)
    (hx : (reputationTx ctx (Tx.register ctx caller)).exec c = (.error e, c₁)) :
    ((Op.register ctx caller).act.exec c).1 = .error e := by
  show ((Reputation.register ctx caller >>= fun _ => pure ()).exec c).1 = _
  unfold Reputation.register
  refine service_error (show _ = (_, c₁) from ?_)
  simp only [hz, Bool.false_eq_true, if_false]
  exact hx

/-- A second registration of an account is refused as already registered. -/
theorem Op.register_taken (hf : c.faults.armed = []) (hl : ctx.cancelled = false)
    (hz : caller.isZero = false) (hreg : c.reputation.accounts.contains caller = true) :
    ((Op.register ctx caller).act.exec c).1 =
      .error (.make .alreadyRegistered "account is already registered") := by
  have hx : (Tx.register ctx caller c.reputation).exec c =
      (.error (.make .alreadyRegistered "account is already registered"), c) := by
    unfold Tx.register
    rw [step_bind, step_tryCatch, exec_repCreateAccount_taken hf hreg]
    rfl
  exact Op.register_error hz (reputationTx_error_live hf hl hx)

end Reputation

end CampusLedger
