import CampusLedger.Proofs.Store
/-!
# What a transaction body does

Each operation of the two ledgers runs one transaction body on a draft of its books. A body
that succeeds has passed every check it makes, in order, and its draft is the committed books
written by the store steps it took; the staking bodies that reach the bank do so last. A body
that fails has changed nothing the services own.
-/

namespace CampusLedger

open Act

namespace Staking

variable {ctx : Context} {caller : AccountId} {b b' : Book} {c c' : Campus}

theorem registerTx_ok {r : Account × Nat}
    (h : (Tx.register ctx caller b).exec c = (.ok (r, b'), c')) :
    b.createAccount .readWrite (Account.fresh caller ctx.now) = .ok b' ∧ c' = c ∧
      r = (Account.fresh caller ctx.now, b'.loadConfig.totalUsers) := by
  unfold Tx.register at h
  obtain ⟨b₁, hcreate, h⟩ := step_bind_write h fun _ _ _ hx =>
    stakeCreateAccount_ok ((step_tryCatch_ok fun e b c => by split <;> exact ⟨_, rfl⟩).mp hx)
  obtain ⟨cfg, rfl, h⟩ := step_bind_steady h fun _ _ _ hx => stakeLoadConfig_ok (internally_ok.mp hx)
  simp only [step_pure, Prod.mk.injEq, Except.ok.injEq] at h
  obtain ⟨⟨rfl, rfl⟩, rfl⟩ := h
  exact ⟨hcreate, rfl, rfl⟩

theorem launchTx_ok {asset : AssetId} {threshold : Nat} {cfg : Config}
    (h : (Tx.launch caller asset threshold b).exec c = (.ok (cfg, b'), c')) :
    b.config.guard.canInitialize caller = .ok () ∧ asset.id ≠ 0 ∧
      cfg = { b.loadConfig with asset, threshold, guard := b.config.guard.markInitialized } ∧
      b.saveConfig .readWrite cfg = .ok b' ∧
      ∃ bank, c.bank.optIn asset b.config.escrow = .ok bank ∧ c' = { c with bank } := by
  unfold Tx.launch at h
  obtain ⟨c₀, rfl, h⟩ := step_bind_steady h fun _ _ _ hx => stakeLoadConfig_ok (internally_ok.mp hx)
  obtain ⟨-, hinit, h⟩ := step_bind_steady h fun _ _ _ hx => check_ok hx
  dsimp only at h
  cases hz : asset.id == 0
  case true => simp [hz, step_bind] at h
  simp only [hz, Bool.false_eq_true, ↓reduceIte] at h
  obtain ⟨b₁, hsave, h⟩ := step_bind_write h fun _ _ _ hx => stakeSaveConfig_ok (internally_ok.mp hx)
  obtain ⟨_, b₂, c₂, hx, h⟩ := step_bind_ok.mp h
  obtain ⟨rfl, bank, hbank, rfl⟩ := liftOptIn_ok (assetAccess_ok.mp hx)
  simp only [step_pure, Prod.mk.injEq, Except.ok.injEq] at h
  obtain ⟨⟨rfl, rfl⟩, rfl⟩ := h
  exact ⟨hinit, by simpa using hz, rfl, hsave, bank, hbank, rfl⟩

theorem stakeTx_ok {d : Transfer} {r : Nat × Nat}
    (h : (Tx.stake ctx caller d b).exec c = (.ok (r, b'), c')) :
    ∃ a a' cfg' b₂ b₃, b.config.guard.requireInitialized = .ok () ∧
      b.loadConfig.checkDeposit caller d = .ok () ∧ b.findAccount caller = .ok a ∧
      c.bank.settled d = true ∧ b.recordDeposit .readWrite d = .ok b₂ ∧
      a.stake b.loadConfig d.amount ctx.now = .ok (a', cfg') ∧
      b₂.saveAccount .readWrite a' = .ok b₃ ∧ b₃.saveConfig .readWrite cfg' = .ok b' ∧
      c' = c ∧ r = (a'.staked, cfg'.totalStaked) := by
  unfold Tx.stake at h
  obtain ⟨cfg, rfl, h⟩ := step_bind_steady h fun _ _ _ hx => stakeLoadConfig_ok (internally_ok.mp hx)
  obtain ⟨-, hinit, h⟩ := step_bind_steady h fun _ _ _ hx => check_ok hx
  obtain ⟨-, hdep, h⟩ := step_bind_steady h fun _ _ _ hx => check_ok hx
  obtain ⟨a, hfind, h⟩ := step_bind_steady h fun _ _ _ hx =>
    stakeFindAccount_ok (accountAccess_ok.mp hx)
  obtain ⟨ok, rfl, h⟩ := step_bind_steady h fun _ _ _ hx => liftSettled_ok (assetAccess_ok.mp hx)
  cases hok : c.bank.settled d
  case false => simp [hok, step_bind] at h
  simp only [hok, Bool.not_true, Bool.false_eq_true, ↓reduceIte] at h
  obtain ⟨b₂, hrec, h⟩ := step_bind_write h fun _ _ _ hx =>
    stakeRecordDeposit_ok ((step_tryCatch_ok fun e b c => by split <;> exact ⟨_, rfl⟩).mp hx)
  rcases hst : a.stake b.loadConfig d.amount ctx.now with f | ⟨a', cfg'⟩
  case error => simp [hst, step_bind] at h
  simp only [hst] at h
  rw [step_bind, step_pure] at h
  obtain ⟨b₃, hsave, h⟩ := step_bind_write h fun _ _ _ hx =>
    stakeSaveAccount_ok (accountAccess_ok.mp hx)
  obtain ⟨b₄, hconf, h⟩ := step_bind_write h fun _ _ _ hx =>
    stakeSaveConfig_ok (internally_ok.mp hx)
  simp only [step_pure, Prod.mk.injEq, Except.ok.injEq] at h
  obtain ⟨⟨rfl, rfl⟩, rfl⟩ := h
  exact ⟨a, a', cfg', b₂, b₃, hinit, hdep, hfind, rfl, hrec, hst, hsave, hconf, rfl, rfl⟩

theorem withdrawTx_ok {amount : Nat} {r : Nat × Nat}
    (h : (Tx.withdraw ctx caller amount b).exec c = (.ok (r, b'), c')) :
    ∃ a b₁ bank t, b.config.guard.requireInitialized = .ok () ∧ b.findAccount caller = .ok a ∧
      a.canWithdraw amount = .ok () ∧
      b.saveAccount .readWrite (a.withdraw b.loadConfig amount ctx.now).1 = .ok b₁ ∧
      b₁.saveConfig .readWrite (a.withdraw b.loadConfig amount ctx.now).2 = .ok b' ∧
      c.bank.transfer b.config.asset b.config.escrow caller amount
        (Uuid.numbered (c.issued + 1)) = .ok (bank, t) ∧
      c' = { c with bank, issued := c.issued + 1 } ∧
      r = ((a.withdraw b.loadConfig amount ctx.now).1.staked,
        (a.withdraw b.loadConfig amount ctx.now).2.totalStaked) := by
  unfold Tx.withdraw at h
  obtain ⟨cfg, rfl, h⟩ := step_bind_steady h fun _ _ _ hx => stakeLoadConfig_ok (internally_ok.mp hx)
  obtain ⟨-, hinit, h⟩ := step_bind_steady h fun _ _ _ hx => check_ok hx
  dsimp only at h
  cases hz : amount == 0
  case true => simp [hz, step_bind] at h
  simp only [hz, Bool.false_eq_true, ↓reduceIte] at h
  obtain ⟨a, hfind, h⟩ := step_bind_steady h fun _ _ _ hx =>
    stakeFindAccount_ok (accountAccess_ok.mp hx)
  obtain ⟨-, hcan, h⟩ := step_bind_steady h fun _ _ _ hx => check_ok hx
  dsimp only [Account.withdraw] at h
  obtain ⟨b₁, hsave, h⟩ := step_bind_write h fun _ _ _ hx =>
    stakeSaveAccount_ok (accountAccess_ok.mp hx)
  obtain ⟨b₂, hconf, h⟩ := step_bind_write h fun _ _ _ hx =>
    stakeSaveConfig_ok (internally_ok.mp hx)
  obtain ⟨t, b₃, c₃, hx, h⟩ := step_bind_ok.mp h
  obtain ⟨rfl, bank, hbank, rfl⟩ := liftTransfer_ok (assetAccess_ok.mp hx)
  simp only [step_pure, Prod.mk.injEq, Except.ok.injEq] at h
  obtain ⟨⟨rfl, rfl⟩, rfl⟩ := h
  exact ⟨a, b₁, bank, t, hinit, hfind, hcan, hsave, hconf, hbank, rfl, rfl⟩

theorem atomic_registerTx (ctx : Context) (caller : AccountId) (b : Book) :
    Atomic (Tx.register ctx caller b) := by
  unfold Tx.register
  refine atomic_step_bind (within_step_tryCatch (quiet_stakeCreateAccount _ _) fun e b => ?_)
    (fun _ b => ?_) b
  · split <;> exact within_throw _
  · exact atomic_step_bind (quiet_internally quiet_stakeLoadConfig)
      (fun _ _ => atomic_of_quiet (within_pure _)) b

theorem atomic_launchTx (caller : AccountId) (asset : AssetId) (threshold : Nat) (b : Book) :
    Atomic (Tx.launch caller asset threshold b) := by
  unfold Tx.launch
  refine atomic_step_bind (quiet_internally quiet_stakeLoadConfig) (fun cfg b => ?_) b
  refine atomic_step_bind (quiet_check _) (fun _ b => ?_) b
  dsimp only
  split
  · exact atomic_step_throw_bind _ _ b
  refine atomic_step_bind (quiet_internally (quiet_stakeSaveConfig _ _)) (fun _ b => ?_) b
  exact atomic_step_bind_pure (atomic_assetAccess (atomic_lift (atomic_optIn _ _))) _ b

theorem atomic_stakeTx (ctx : Context) (caller : AccountId) (d : Transfer) (b : Book) :
    Atomic (Tx.stake ctx caller d b) := by
  unfold Tx.stake
  refine atomic_step_bind (quiet_internally quiet_stakeLoadConfig) (fun cfg b => ?_) b
  refine atomic_step_bind (quiet_check _) (fun _ b => ?_) b
  refine atomic_step_bind (quiet_check _) (fun _ b => ?_) b
  refine atomic_step_bind (quiet_accountAccess (quiet_stakeFindAccount _)) (fun a b => ?_) b
  refine atomic_step_bind (quiet_assetAccess (within_lift (quiet_settled _))) (fun ok b => ?_) b
  dsimp only
  split
  · exact atomic_step_throw_bind _ _ b
  refine atomic_step_bind (within_step_tryCatch (quiet_stakeRecordDeposit _ _) fun e b => ?_)
    (fun _ b => ?_) b
  · split <;> exact within_throw _
  cases a.stake cfg d.amount ctx.now with
  | error e => exact atomic_step_throw_bind _ _ b
  | ok p =>
    refine atomic_step_bind (fun _ => within_pure _) (fun p b => ?_) b
    refine atomic_step_bind (quiet_accountAccess (quiet_stakeSaveAccount _ _)) (fun _ b => ?_) b
    exact atomic_step_bind (quiet_internally (quiet_stakeSaveConfig _ _))
      (fun _ _ => atomic_of_quiet (within_pure _)) b

theorem atomic_withdrawTx (ctx : Context) (caller : AccountId) (amount : Nat) (b : Book) :
    Atomic (Tx.withdraw ctx caller amount b) := by
  unfold Tx.withdraw
  refine atomic_step_bind (quiet_internally quiet_stakeLoadConfig) (fun cfg b => ?_) b
  refine atomic_step_bind (quiet_check _) (fun _ b => ?_) b
  dsimp only
  split
  · exact atomic_step_throw_bind _ _ b
  refine atomic_step_bind (quiet_accountAccess (quiet_stakeFindAccount _)) (fun a b => ?_) b
  refine atomic_step_bind (quiet_check _) (fun _ b => ?_) b
  refine atomic_step_bind (quiet_accountAccess (quiet_stakeSaveAccount _ _)) (fun _ b => ?_) b
  refine atomic_step_bind (quiet_internally (quiet_stakeSaveConfig _ _)) (fun _ b => ?_) b
  exact atomic_step_bind_pure (atomic_assetAccess (atomic_lift (atomic_transfer _ _ _ _))) _ b

end Staking

namespace Reputation

variable {ctx : Context} {caller : AccountId} {b b' : Book} {c c' : Campus}

theorem registerTx_ok {r : Account × Nat}
    (h : (Tx.register ctx caller b).exec c = (.ok (r, b'), c')) :
    b.createAccount .readWrite (Account.fresh caller ctx.now) = .ok b' ∧ c' = c ∧
      r = (Account.fresh caller ctx.now, b'.loadConfig.totalUsers) := by
  unfold Tx.register at h
  obtain ⟨b₁, hcreate, h⟩ := step_bind_write h fun _ _ _ hx =>
    repCreateAccount_ok ((step_tryCatch_ok fun e b c => by split <;> exact ⟨_, rfl⟩).mp hx)
  obtain ⟨cfg, rfl, h⟩ := step_bind_steady h fun _ _ _ hx => repLoadConfig_ok (internally_ok.mp hx)
  simp only [step_pure, Prod.mk.injEq, Except.ok.injEq] at h
  obtain ⟨⟨rfl, rfl⟩, rfl⟩ := h
  exact ⟨hcreate, rfl, rfl⟩

theorem launchTx_ok {weights : Scores} {cfg : Config}
    (h : (Tx.launch caller weights b).exec c = (.ok (cfg, b'), c')) :
    b.config.guard.canInitialize caller = .ok () ∧
      cfg = { b.loadConfig with weights, guard := b.config.guard.markInitialized } ∧
      b.saveConfig .readWrite cfg = .ok b' ∧ c' = c := by
  unfold Tx.launch at h
  obtain ⟨c₀, rfl, h⟩ := step_bind_steady h fun _ _ _ hx => repLoadConfig_ok (internally_ok.mp hx)
  dsimp only at h
  rcases hinit : b.loadConfig.guard.canInitialize caller with e | ⟨⟩
  case error => simp only [hinit, step_bind, step_throw, Prod.mk.injEq, reduceCtorEq, false_and] at h
  simp only [hinit] at h
  obtain ⟨b₁, hsave, h⟩ := step_bind_write h fun _ _ _ hx => repSaveConfig_ok (internally_ok.mp hx)
  simp only [step_pure, Prod.mk.injEq, Except.ok.injEq] at h
  obtain ⟨⟨rfl, rfl⟩, rfl⟩ := h
  exact ⟨hinit, rfl, hsave, rfl⟩

theorem updateTx_ok {account : AccountId} {delta : Scores} {r : Nat}
    (h : (Tx.update ctx caller account delta b).exec c = (.ok (r, b'), c')) :
    ∃ a a', b.config.guard.requirePrivileged caller = .ok () ∧ b.findAccount account = .ok a ∧
      a.applyDelta delta b.config.weights ctx.now = .ok a' ∧
      b.saveAccount .readWrite a' = .ok b' ∧ c' = c ∧ r = a'.composite := by
  unfold Tx.update at h
  obtain ⟨cfg, rfl, h⟩ := step_bind_steady h fun _ _ _ hx => repLoadConfig_ok (internally_ok.mp hx)
  dsimp only at h
  rcases hpriv : b.loadConfig.guard.requirePrivileged caller with e | ⟨⟩
  case error => simp only [hpriv, step_bind, step_throw, Prod.mk.injEq, reduceCtorEq, false_and] at h
  simp only [hpriv] at h
  obtain ⟨a, hfind, h⟩ := step_bind_steady h fun _ _ _ hx =>
    repFindAccount_ok (accountAccess_ok.mp hx)
  rcases hd : a.applyDelta delta b.loadConfig.weights ctx.now with e | a'
  case error => simp only [hd, step_bind, step_throw, Prod.mk.injEq, reduceCtorEq, false_and] at h
  simp only [hd] at h
  rw [step_bind, step_pure] at h
  obtain ⟨b₁, hsave, h⟩ := step_bind_write h fun _ _ _ hx =>
    repSaveAccount_ok (accountAccess_ok.mp hx)
  simp only [step_pure, Prod.mk.injEq, Except.ok.injEq] at h
  obtain ⟨⟨rfl, rfl⟩, rfl⟩ := h
  exact ⟨a, a', hpriv, hfind, hd, hsave, rfl, rfl⟩

theorem atomic_registerTx (ctx : Context) (caller : AccountId) (b : Book) :
    Atomic (Tx.register ctx caller b) := by
  unfold Tx.register
  refine atomic_step_bind (within_step_tryCatch (quiet_repCreateAccount _ _) fun e b => ?_)
    (fun _ b => ?_) b
  · split <;> exact within_throw _
  · exact atomic_step_bind (quiet_internally quiet_repLoadConfig)
      (fun _ _ => atomic_of_quiet (within_pure _)) b

theorem atomic_launchTx (caller : AccountId) (weights : Scores) (b : Book) :
    Atomic (Tx.launch caller weights b) := by
  unfold Tx.launch
  refine atomic_step_bind (quiet_internally quiet_repLoadConfig) (fun cfg b => ?_) b
  dsimp only
  cases cfg.guard.canInitialize caller with
  | error e => exact atomic_step_throw_bind _ _ b
  | ok u =>
    exact atomic_step_bind (quiet_internally (quiet_repSaveConfig _ _))
      (fun _ _ => atomic_of_quiet (within_pure _)) b

theorem atomic_updateTx (ctx : Context) (caller account : AccountId) (delta : Scores) (b : Book) :
    Atomic (Tx.update ctx caller account delta b) := by
  unfold Tx.update
  refine atomic_step_bind (quiet_internally quiet_repLoadConfig) (fun cfg b => ?_) b
  dsimp only
  cases cfg.guard.requirePrivileged caller with
  | error e => exact atomic_step_throw_bind _ _ b
  | ok u =>
    refine atomic_step_bind (quiet_accountAccess (quiet_repFindAccount _)) (fun a b => ?_) b
    cases a.applyDelta delta cfg.weights ctx.now with
    | error e => exact atomic_step_throw_bind _ _ b
    | ok a' =>
      refine atomic_step_bind (fun _ => within_pure _) (fun a b => ?_) b
      exact atomic_step_bind (quiet_accountAccess (quiet_repSaveAccount _ _))
        (fun _ _ => atomic_of_quiet (within_pure _)) b

end Reputation

end CampusLedger
