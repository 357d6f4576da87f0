import CampusLedger.Proofs.AuditTrail
import CampusLedger.Proofs.Verdicts
/-!
# When a score update or a stake succeeds

A score update and a stake succeed on exactly the campuses that let them through: their request
is live, the call sites they pass are unarmed, publishing their event does not panic, and the
checks of their transaction body pass. Each of those conditions is either about the campus
alone, whatever the account, delta or deposit (`UpdateOpen`, `StakeOpen`), or about the one
record the call writes. A successful call writes that record and, for a stake, the total and
the credited deposits, and keeps every condition about the campus alone.

This is what lets later proofs compare two runs of the same calls made in different orders
without stepping through the services again.
-/

namespace CampusLedger

open Act Ledger

namespace Faults

/-- A call that passes a site finds it unarmed. -/
theorem countOf_eq_zero_of_trip {f : Faults} {site : String} (h : (f.trip site).1 = false) :
    f.countOf site = 0 := by
  unfold trip at h
  dsimp only at h
  split_ifs at h with h0
  simpa using h0

end Faults

/-- Publishing on the campus never panics: an audited campus whose events go through the queue
keeps the queue open. -/
def Campus.Emits (c : Campus) : Prop :=
  c.wiring.audited = true → c.outbox.queued = true → c.outbox.closed = false

/-- Whether publishing may panic is fixed by the wiring and the shape of the queue. -/
theorem Campus.emits_iff_of_wired {c c' : Campus} (h : Frame.wired.rel c c') : c'.Emits ↔ c.Emits := by
  obtain ⟨hw, hcap, hclosed, -⟩ := h
  simp only [Campus.Emits, Audit.Outbox.queued, hw, hcap, hclosed]

theorem Campus.Emits.wired {c c' : Campus} (hc : c.Emits) (h : Frame.wired.rel c c') : c'.Emits :=
  (Campus.emits_iff_of_wired h).mpr hc

namespace Act

variable {α σ : Type} {c c' c₁ : Campus}

theorem exec_faultAt_zero {site : String} (h : c.faults.countOf site = 0) :
    (faultAt site).exec c = (.ok (), c) := by
  rw [exec_faultAt, Faults.trip_of_countOf_zero h]
  rfl

theorem step_guarded_zero {f : Unit → StateT σ Act α} {b : σ} {site : String}
    (h : c.faults.countOf site = 0) :
    ((liftM (faultAt site) >>= f : StateT σ Act α) b).exec c = (f () b).exec c := by
  rw [step_bind, step_lift, exec_faultAt_zero h]

theorem faultAt_passes {site : String} {u : Unit} (h : (faultAt site).exec c = (.ok u, c')) :
    c.faults.countOf site = 0 :=
  Faults.countOf_eq_zero_of_trip (faultAt_ok.mp h).1

theorem guarded_passes {site : String} {f : Unit → StateT σ Act α} {b b' : σ} {v : α}
    (h : ((liftM (faultAt site) >>= f : StateT σ Act α) b).exec c = (.ok (v, b'), c')) :
    c.faults.countOf site = 0 :=
  Faults.countOf_eq_zero_of_trip (guarded_ok.mp h).1

/-- A queue answers that it is closed exactly when events go through it and it is closed. -/
theorem accept_eq_closed (o : Audit.Outbox) (e : Audit.Event) :
    (o.accept e).1 = .closed ↔ o.queued = true ∧ o.closed = true := by
  unfold Audit.Outbox.accept
  cases o.queued <;> cases o.closed <;> simp
  split_ifs <;> simp

theorem open_of_accept_ne {o : Audit.Outbox} {e : Audit.Event} (h : (o.accept e).1 ≠ .closed)
    (hq : o.queued = true) : o.closed = false := by
  cases hc : o.closed
  · rfl
  · exact absurd ((accept_eq_closed o e).mpr ⟨hq, hc⟩) h

/-- Publishing succeeds exactly on a campus where it never panics. -/
theorem emit_ok_iff (ctx : Context) (e : Audit.Event) (c : Campus) :
    (∃ c', (emit ctx e).exec c = (.ok (), c')) ↔ c.Emits := by
  unfold emit Campus.Emits
  rw [exec_bind, exec_get]
  dsimp only
  cases ha : c.wiring.audited
  · simp
  · simp only [Bool.not_true, Bool.false_eq_true, if_false, true_implies]
    rw [exec_bind]
    simp only [nextUuid, exec_modifyGet]
    rw [exec_bind, exec_get]
    dsimp only
    rw [exec_bind, exec_modify]
    dsimp only
    -- the event is stored, waits or is dropped, unless the queue answers that it is closed
    split
    · rename_i hd
      obtain ⟨u, c', h⟩ := exec_ok_of_raises (write_raises _) _
      exact ⟨fun _ => open_of_accept_ne (by rw [hd]; decide), fun _ => ⟨c', h⟩⟩
    · rename_i hd
      exact ⟨fun _ => open_of_accept_ne (by rw [hd]; decide), fun _ => ⟨_, rfl⟩⟩
    · rename_i hd
      exact ⟨fun _ => open_of_accept_ne (by rw [hd]; decide), fun _ => ⟨_, rfl⟩⟩
    · rename_i hd
      have hclosed := (accept_eq_closed _ _).mp hd
      simp only [exec_throw, Prod.mk.injEq, reduceCtorEq, false_and, exists_false, false_iff]
      intro h
      exact absurd (h hclosed.1) (by simp [hclosed.2])

/-- Publishing leaves the books of both ledgers and the bank, whatever its outcome. -/
theorem emit_keeps_books {ctx : Context} {e : Audit.Event} {r : Except Failure Unit}
    (h : (emit ctx e).exec c = (r, c')) :
    c'.reputation = c.reputation ∧ c'.staking = c.staking ∧ c'.bank = c.bank := by
  have hb := books_emit ctx e c
  rw [h] at hb
  exact ⟨hb.1, hb.2.1, hb.2.2.1⟩

/-- A transaction passes its own site and finds its request live before its body runs. -/
theorem reputationTx_passes {ctx : Context} {body : OnReputation α} {a : α}
    (h : (reputationTx ctx body).exec c = (.ok a, c')) :
    c.faults.countOf "rep.RunInTx" = 0 ∧ ctx.cancelled = false := by
  unfold reputationTx at h
  obtain ⟨_, c₁, hf, k₁⟩ := exec_bind_ok.mp h
  obtain ⟨_, c₂, hx, -⟩ := exec_bind_ok.mp k₁
  have hsite := faultAt_passes hf
  obtain ⟨-, rfl⟩ := faultAt_ok.mp hf
  exact ⟨hsite, (checkContext_ok.mp hx).1⟩

theorem reputationTx_exec_ok {ctx : Context} {body : OnReputation α} {a : α} {d : Reputation.Book}
    (hs : c.faults.countOf "rep.RunInTx" = 0) (hl : ctx.cancelled = false)
    (hb : (body c.reputation).exec c = (.ok (a, d), c₁)) :
    (reputationTx ctx body).exec c = (.ok a, { c₁ with reputation := d }) := by
  unfold reputationTx
  rw [exec_bind, exec_faultAt_zero hs]
  dsimp only
  rw [exec_bind, exec_checkContext_live hl]
  dsimp only
  rw [exec_bind, exec_get]
  dsimp only
  rw [exec_bind, show StateT.run body c.reputation = body c.reputation from rfl, hb]
  rfl

theorem stakingTx_passes {ctx : Context} {body : OnStaking α} {a : α}
    (h : (stakingTx ctx body).exec c = (.ok a, c')) :
    c.faults.countOf "stake.RunInTx" = 0 ∧ ctx.cancelled = false := by
  unfold stakingTx at h
  obtain ⟨_, c₁, hf, k₁⟩ := exec_bind_ok.mp h
  obtain ⟨_, c₂, hx, -⟩ := exec_bind_ok.mp k₁
  have hsite := faultAt_passes hf
  obtain ⟨-, rfl⟩ := faultAt_ok.mp hf
  exact ⟨hsite, (checkContext_ok.mp hx).1⟩

theorem stakingTx_exec_ok {ctx : Context} {body : OnStaking α} {a : α} {d : Staking.Book}
    (hs : c.faults.countOf "stake.RunInTx" = 0) (hl : ctx.cancelled = false)
    (hb : (body c.staking).exec c = (.ok (a, d), c₁)) :
    (stakingTx ctx body).exec c = (.ok a, { c₁ with staking := d }) := by
  unfold stakingTx
  rw [exec_bind, exec_faultAt_zero hs]
  dsimp only
  rw [exec_bind, exec_checkContext_live hl]
  dsimp only
  rw [exec_bind, exec_get]
  dsimp only
  rw [exec_bind, show StateT.run body c.staking = body c.staking from rfl, hb]
  rfl

variable {b b' : Reputation.Book}

theorem exec_repLoadConfig_zero (h : c.faults.countOf "rep.LoadConfig" = 0) :
    (OnReputation.loadConfig b).exec c = (.ok (b.loadConfig, b), c) := by
  rw [OnReputation.loadConfig, step_guarded_zero h]
  rfl

theorem exec_repFindAccount_zero {id : AccountId} {a : Reputation.Account}
    (h : c.faults.countOf "rep.FindAccount" = 0) (hf : b.findAccount id = .ok a) :
    (OnReputation.findAccount id b).exec c = (.ok (a, b), c) := by
  rw [OnReputation.findAccount, step_guarded_zero h]
  simp only [step_bind, step_get, hf]
  rfl

theorem exec_repSaveAccount_zero {a : Reputation.Account} (h : c.faults.countOf "rep.SaveAccount" = 0)
    (hs : b.saveAccount .readWrite a = .ok b') :
    (OnReputation.saveAccount .readWrite a b).exec c = (.ok ((), b'), c) := by
  rw [OnReputation.saveAccount, step_guarded_zero h]
  simp only [step_bind, step_get, hs]
  rfl

end Act

namespace Reputation

variable {ctx : Context} {caller account : AccountId} {delta : Scores} {b b' : Book}
  {c c' : Campus} {a a' : Account}

/-- The sites a score update passes inside its transaction. -/
theorem updateTx_passes {r : Nat}
    (h : (Tx.update ctx caller account delta b).exec c = (.ok (r, b'), c')) :
    c.faults.countOf "rep.LoadConfig" = 0 ∧ c.faults.countOf "rep.FindAccount" = 0 ∧
      c.faults.countOf "rep.SaveAccount" = 0 := by
  unfold Tx.update at h
  obtain ⟨cfg, b₁, c₁, hx, h⟩ := step_bind_ok.mp h
  have hload := internally_ok.mp hx
  obtain ⟨rfl, hb₁, hc₁⟩ := repLoadConfig_ok hload
  rw [hb₁, hc₁] at h
  rw [OnReputation.loadConfig] at hload
  dsimp only at h
  rcases hpriv : b.loadConfig.guard.requirePrivileged caller with e | ⟨⟩
  case error => simp only [hpriv, step_bind, step_throw, Prod.mk.injEq, reduceCtorEq, false_and] at h
  simp only [hpriv] at h
  obtain ⟨a, b₂, c₂, hx, h⟩ := step_bind_ok.mp h
  have hfind := accountAccess_ok.mp hx
  obtain ⟨-, hb₂, hc₂⟩ := repFindAccount_ok hfind
  rw [hb₂, hc₂] at h
  rw [OnReputation.findAccount] at hfind
  rcases hd : a.applyDelta delta b.loadConfig.weights ctx.now with e | a'
  case error => simp only [hd, step_bind, step_throw, Prod.mk.injEq, reduceCtorEq, false_and] at h
  simp only [hd] at h
  rw [step_bind, step_pure] at h
  obtain ⟨u, b₃, c₃, hx, -⟩ := step_bind_ok.mp h
  have hsave := accountAccess_ok.mp hx
  rw [OnReputation.saveAccount] at hsave
  exact ⟨guarded_passes hload, guarded_passes hfind, guarded_passes hsave⟩

theorem updateTx_exec_ok (h₁ : c.faults.countOf "rep.LoadConfig" = 0)
    (h₂ : c.faults.countOf "rep.FindAccount" = 0) (h₃ : c.faults.countOf "rep.SaveAccount" = 0)
    (hpriv : b.config.guard.requirePrivileged caller = .ok ()) (hfind : b.findAccount account = .ok a)
    (hd : a.applyDelta delta b.config.weights ctx.now = .ok a')
    (hsave : b.saveAccount .readWrite a' = .ok b') :
    (Tx.update ctx caller account delta b).exec c = (.ok (a'.composite, b'), c) := by
  unfold Tx.update
  simp only [internally, accountAccess, step_bind, step_tryCatch, exec_repLoadConfig_zero h₁,
    Book.loadConfig_guard, Book.loadConfig_weights, hpriv, exec_repFindAccount_zero h₂ hfind, hd,
    step_pure, exec_repSaveAccount_zero h₃ hsave]

/-- A campus that lets `caller` update scores, whatever the account and delta: the sites a score
update passes are unarmed, the caller may make privileged calls on the reputation ledger, and
publishing never panics. -/
structure UpdateOpen (caller : AccountId) (c : Campus) : Prop where
  runInTx : c.faults.countOf "rep.RunInTx" = 0
  loadConfig : c.faults.countOf "rep.LoadConfig" = 0
  findAccount : c.faults.countOf "rep.FindAccount" = 0
  saveAccount : c.faults.countOf "rep.SaveAccount" = 0
  privileged : c.reputation.config.guard.requirePrivileged caller = .ok ()
  emits : c.Emits

/-- A campus stays open to updates along every act that keeps the wiring, arms no site and
leaves the reputation configuration. -/
theorem UpdateOpen.keep (ho : UpdateOpen caller c) (hw : Frame.wired.rel c c')
    (hcfg : c'.reputation.config = c.reputation.config) : UpdateOpen caller c' where
  runInTx := hw.2.2.2 _ ho.runInTx
  loadConfig := hw.2.2.2 _ ho.loadConfig
  findAccount := hw.2.2.2 _ ho.findAccount
  saveAccount := hw.2.2.2 _ ho.saveAccount
  privileged := hcfg ▸ ho.privileged
  emits := ho.emits.wired hw

theorem wired_update_commit (ctx : Context) (caller account : AccountId) (delta : Scores)
    (c : Campus) : Frame.wired.rel c ((instrumented "reputation" "update_scores"
      (reputationTx ctx (Tx.update ctx caller account delta))).exec c).2 :=
  within_instrumented Frame.wired_untouched.toPasses (within_reputationTx
    Frame.wired_untouched.toSteps ctx (within_updateTx Frame.wired_untouched.toSteps ctx caller
      account delta)) c

/-- What a successful score update needed and what it wrote: its request was live, the campus
open to the caller's updates, and the account's record took the delta. -/
theorem updateScores_ok {r : Nat} (h : (updateScores ctx caller account delta).exec c = (.ok r, c')) :
    ctx.cancelled = false ∧ UpdateOpen caller c ∧ ∃ a a', c.reputation.findAccount account = .ok a ∧
      a.applyDelta delta c.reputation.config.weights ctx.now = .ok a' ∧
      c.reputation.saveAccount .readWrite a' = .ok c'.reputation := by
  unfold updateScores at h
  obtain ⟨v, c₁, hi, h⟩ := exec_bind_ok.mp h
  have hw := wired_update_commit ctx caller account delta c
  rw [hi] at hw
  obtain ⟨u, c₂, he, hp⟩ := exec_bind_ok.mp h
  obtain ⟨-, rfl⟩ : r = v ∧ c' = c₂ := by simpa [eq_comm] using hp
  obtain ⟨c₀, htx, hq⟩ := instrumented_ok hi
  obtain ⟨hsite, hl⟩ := reputationTx_passes htx
  obtain ⟨d, c₃, hb, rfl⟩ := reputationTx_ok htx
  obtain ⟨h₁, h₂, h₃⟩ := updateTx_passes hb
  obtain ⟨a, a', hpriv, hfind, hd, hsave, rfl, -⟩ := updateTx_ok hb
  -- publishing leaves the books, and counting the outcome leaves everything the services own
  have hrep : c'.reputation = d := (emit_keeps_books he).1.trans (Frame.quiet_books hq).1
  have hemits : c₁.Emits := (emit_ok_iff ctx _ c₁).mp ⟨c', he⟩
  exact ⟨hl, ⟨hsite, h₁, h₂, h₃, hpriv, (Campus.emits_iff_of_wired hw).mp hemits⟩, a, a', hfind,
    hd, hrep ▸ hsave⟩

/-- A score update on a campus open to the caller's updates, for a live request and a record
that takes the delta, succeeds and writes the record. -/
theorem updateScores_ok_of (hl : ctx.cancelled = false) (ho : UpdateOpen caller c)
    (hfind : c.reputation.findAccount account = .ok a)
    (hd : a.applyDelta delta c.reputation.config.weights ctx.now = .ok a')
    (hsave : c.reputation.saveAccount .readWrite a' = .ok b') :
    ∃ c', (updateScores ctx caller account delta).exec c = (.ok a'.composite, c') ∧
      c'.reputation = b' := by
  have htx := reputationTx_exec_ok ho.runInTx hl
    (updateTx_exec_ok ho.loadConfig ho.findAccount ho.saveAccount ho.privileged hfind hd hsave)
  have hi : (instrumented "reputation" "update_scores"
      (reputationTx ctx (Tx.update ctx caller account delta))).exec c =
        (.ok a'.composite, ((observeOperation "reputation" "update_scores" "ok").exec
          { c with reputation := b' }).2) := by
    rw [exec_instrumented, htx]
  have hw := wired_update_commit ctx caller account delta c
  rw [hi] at hw
  obtain ⟨c', he⟩ := (emit_ok_iff ctx _ _).mpr (ho.emits.wired hw)
  refine ⟨c', ?_, ?_⟩
  · unfold updateScores
    rw [exec_bind, hi]
    dsimp only
    rw [exec_bind, he]
    rfl
  · exact (emit_keeps_books he).1.trans (Frame.quiet_books (quiet_observeOperation _ _ _ _)).1

end Reputation

namespace Act

variable {α σ : Type} {c c' : Campus} {b b' : Staking.Book}

theorem stakeLoadConfig_passes {cfg : Staking.Config}
    (h : (OnStaking.loadConfig b).exec c = (.ok (cfg, b'), c')) :
    c.faults.countOf "stake.LoadConfig" = 0 := by
  rw [OnStaking.loadConfig] at h
  exact guarded_passes h

theorem stakeFindAccount_passes {id : AccountId} {a : Staking.Account}
    (h : (OnStaking.findAccount id b).exec c = (.ok (a, b'), c')) :
    c.faults.countOf "stake.FindAccount" = 0 := by
  rw [OnStaking.findAccount] at h
  exact guarded_passes h

theorem stakeRecordDeposit_passes {acc : Access} {t : Transfer} {u : Unit}
    (h : (OnStaking.recordDeposit acc t b).exec c = (.ok (u, b'), c')) :
    c.faults.countOf "stake.RecordDeposit" = 0 := by
  rw [OnStaking.recordDeposit] at h
  exact guarded_passes h

theorem stakeSaveAccount_passes {acc : Access} {a : Staking.Account} {u : Unit}
    (h : (OnStaking.saveAccount acc a b).exec c = (.ok (u, b'), c')) :
    c.faults.countOf "stake.SaveAccount" = 0 := by
  rw [OnStaking.saveAccount] at h
  exact guarded_passes h

theorem stakeSaveConfig_passes {acc : Access} {cfg : Staking.Config} {u : Unit}
    (h : (OnStaking.saveConfig acc cfg b).exec c = (.ok (u, b'), c')) :
    c.faults.countOf "stake.SaveConfig" = 0 := by
  rw [OnStaking.saveConfig] at h
  exact guarded_passes h

theorem liftSettled_passes {t : Transfer} {v : Bool} {x x' : σ}
    (h : ((liftM (settled t) : StateT σ Act Bool) x).exec c = (.ok (v, x'), c')) :
    c.faults.countOf "bank.Settled" = 0 :=
  Faults.countOf_eq_zero_of_trip (settled_ok.mp (step_lift_ok.mp h).1).1

theorem exec_stakeLoadConfig_zero (h : c.faults.countOf "stake.LoadConfig" = 0) :
    (OnStaking.loadConfig b).exec c = (.ok (b.loadConfig, b), c) := by
  rw [OnStaking.loadConfig, step_guarded_zero h]
  rfl

theorem exec_stakeFindAccount_zero {id : AccountId} {a : Staking.Account}
    (h : c.faults.countOf "stake.FindAccount" = 0) (hf : b.findAccount id = .ok a) :
    (OnStaking.findAccount id b).exec c = (.ok (a, b), c) := by
  rw [OnStaking.findAccount, step_guarded_zero h]
  simp only [step_bind, step_get, hf]
  rfl

theorem exec_stakeRecordDeposit_zero {t : Transfer} (h : c.faults.countOf "stake.RecordDeposit" = 0)
    (hr : b.recordDeposit .readWrite t = .ok b') :
    (OnStaking.recordDeposit .readWrite t b).exec c = (.ok ((), b'), c) := by
  rw [OnStaking.recordDeposit, step_guarded_zero h]
  simp only [step_bind, step_get, hr]
  rfl

theorem exec_stakeSaveAccount_zero {a : Staking.Account} (h : c.faults.countOf "stake.SaveAccount" = 0)
    (hs : b.saveAccount .readWrite a = .ok b') :
    (OnStaking.saveAccount .readWrite a b).exec c = (.ok ((), b'), c) := by
  rw [OnStaking.saveAccount, step_guarded_zero h]
  simp only [step_bind, step_get, hs]
  rfl

theorem exec_stakeSaveConfig_zero {cfg : Staking.Config} (h : c.faults.countOf "stake.SaveConfig" = 0)
    (hs : b.saveConfig .readWrite cfg = .ok b') :
    (OnStaking.saveConfig .readWrite cfg b).exec c = (.ok ((), b'), c) := by
  rw [OnStaking.saveConfig, step_guarded_zero h]
  simp only [step_bind, step_get, hs]
  rfl

theorem exec_liftSettled_zero {t : Transfer} {x : σ} (h : c.faults.countOf "bank.Settled" = 0) :
    ((liftM (settled t) : StateT σ Act Bool) x).exec c = (.ok (c.bank.settled t, x), c) := by
  rw [step_lift, settled, exec_bind, exec_faultAt_zero h]
  rfl

end Act

namespace Staking

variable {ctx : Context} {caller : AccountId} {d : Transfer} {b b' : Book} {c c' : Campus}
  {a a' : Account} {cfg' : Config}

/-- The sites a stake passes inside its transaction. -/
theorem stakeTx_passes {r : Nat × Nat} (h : (Tx.stake ctx caller d b).exec c = (.ok (r, b'), c')) :
    c.faults.countOf "stake.LoadConfig" = 0 ∧ c.faults.countOf "stake.FindAccount" = 0 ∧
      c.faults.countOf "bank.Settled" = 0 ∧ c.faults.countOf "stake.RecordDeposit" = 0 ∧
      c.faults.countOf "stake.SaveAccount" = 0 ∧ c.faults.countOf "stake.SaveConfig" = 0 := by
  unfold Tx.stake at h
  obtain ⟨cfg, ⟨h₁, rfl⟩, h⟩ := step_bind_steady
      (P := fun cfg => c.faults.countOf "stake.LoadConfig" = 0 ∧ cfg = b.loadConfig) h fun _ _ _ hx =>
    have hl := internally_ok.mp hx
    ⟨⟨stakeLoadConfig_passes hl, (stakeLoadConfig_ok hl).1⟩, (stakeLoadConfig_ok hl).2⟩
  obtain ⟨-, -, h⟩ := step_bind_steady h fun _ _ _ hx => check_ok hx
  obtain ⟨-, -, h⟩ := step_bind_steady h fun _ _ _ hx => check_ok hx
  obtain ⟨a, h₂, h⟩ := step_bind_steady (P := fun _ => c.faults.countOf "stake.FindAccount" = 0) h
      fun _ _ _ hx =>
    have hf := accountAccess_ok.mp hx
    ⟨stakeFindAccount_passes hf, (stakeFindAccount_ok hf).2⟩
  obtain ⟨ok, ⟨h₃, rfl⟩, h⟩ := step_bind_steady
      (P := fun ok => c.faults.countOf "bank.Settled" = 0 ∧ ok = c.bank.settled d) h fun _ _ _ hx =>
    have hs := assetAccess_ok.mp hx
    ⟨⟨liftSettled_passes hs, (liftSettled_ok hs).1⟩, (liftSettled_ok hs).2⟩
  cases hok : c.bank.settled d
  case false => simp [hok, step_bind] at h
  simp only [hok, Bool.not_true, Bool.false_eq_true, ↓reduceIte] at h
  obtain ⟨u, b₂, c₂, hx, h⟩ := step_bind_ok.mp h
  have hrec := (step_tryCatch_ok fun e b c => by split <;> exact ⟨_, rfl⟩).mp hx
  rw [(stakeRecordDeposit_ok hrec).2] at h
  rcases hst : a.stake b.loadConfig d.amount ctx.now with f | ⟨a', cfg'⟩
  case error => simp [hst, step_bind] at h
  simp only [hst] at h
  rw [step_bind, step_pure] at h
  obtain ⟨u, b₃, c₃, hx, h⟩ := step_bind_ok.mp h
  have hsave := accountAccess_ok.mp hx
  rw [(stakeSaveAccount_ok hsave).2] at h
  obtain ⟨u, b₄, c₄, hx, -⟩ := step_bind_ok.mp h
  exact ⟨h₁, h₂, h₃, stakeRecordDeposit_passes hrec, stakeSaveAccount_passes hsave,
    stakeSaveConfig_passes (internally_ok.mp hx)⟩

theorem stakeTx_exec_ok {b₂ b₃ : Book} (h₁ : c.faults.countOf "stake.LoadConfig" = 0)
    (h₂ : c.faults.countOf "stake.FindAccount" = 0) (h₃ : c.faults.countOf "bank.Settled" = 0)
    (h₄ : c.faults.countOf "stake.RecordDeposit" = 0) (h₅ : c.faults.countOf "stake.SaveAccount" = 0)
    (h₆ : c.faults.countOf "stake.SaveConfig" = 0)
    (hinit : b.config.guard.requireInitialized = .ok ())
    (hdep : b.loadConfig.checkDeposit caller d = .ok ()) (hfind : b.findAccount caller = .ok a)
    (hset : c.bank.settled d = true) (hrec : b.recordDeposit .readWrite d = .ok b₂)
    (hst : a.stake b.loadConfig d.amount ctx.now = .ok (a', cfg'))
    (hsave : b₂.saveAccount .readWrite a' = .ok b₃) (hconf : b₃.saveConfig .readWrite cfg' = .ok b') :
    (Tx.stake ctx caller d b).exec c = (.ok ((a'.staked, cfg'.totalStaked), b'), c) := by
  unfold Tx.stake
  simp only [internally, accountAccess, assetAccess, step_bind, step_tryCatch,
    exec_stakeLoadConfig_zero h₁, Book.loadConfig_guard, hinit, hdep, check, step_pure,
    exec_stakeFindAccount_zero h₂ hfind, exec_liftSettled_zero h₃, hset, Bool.not_true,
    Bool.false_eq_true, if_false, exec_stakeRecordDeposit_zero h₄ hrec, hst,
    exec_stakeSaveAccount_zero h₅ hsave, exec_stakeSaveConfig_zero h₆ hconf]

/-- A campus that lets stakes through, whatever the caller and deposit: the sites a stake passes
are unarmed, the staking ledger is initialized, and publishing never panics. -/
structure StakeOpen (c : Campus) : Prop where
  runInTx : c.faults.countOf "stake.RunInTx" = 0
  loadConfig : c.faults.countOf "stake.LoadConfig" = 0
  findAccount : c.faults.countOf "stake.FindAccount" = 0
  settled : c.faults.countOf "bank.Settled" = 0
  recordDeposit : c.faults.countOf "stake.RecordDeposit" = 0
  saveAccount : c.faults.countOf "stake.SaveAccount" = 0
  saveConfig : c.faults.countOf "stake.SaveConfig" = 0
  initialized : c.staking.config.guard.requireInitialized = .ok ()
  emits : c.Emits

/-- A campus stays open to stakes along every act that keeps the wiring, arms no site and leaves
the staking ledger's guard. -/
theorem StakeOpen.keep (ho : StakeOpen c) (hw : Frame.wired.rel c c')
    (hg : c'.staking.config.guard = c.staking.config.guard) : StakeOpen c' where
  runInTx := hw.2.2.2 _ ho.runInTx
  loadConfig := hw.2.2.2 _ ho.loadConfig
  findAccount := hw.2.2.2 _ ho.findAccount
  settled := hw.2.2.2 _ ho.settled
  recordDeposit := hw.2.2.2 _ ho.recordDeposit
  saveAccount := hw.2.2.2 _ ho.saveAccount
  saveConfig := hw.2.2.2 _ ho.saveConfig
  initialized := hg ▸ ho.initialized
  emits := ho.emits.wired hw

theorem wired_stake_commit (ctx : Context) (caller : AccountId) (d : Transfer) (c : Campus) :
    Frame.wired.rel c ((instrumented "staking" "stake"
      (stakingTx ctx (Tx.stake ctx caller d))).exec c).2 :=
  within_instrumented Frame.wired_untouched.toPasses (within_stakingTx
    Frame.wired_untouched.toSteps ctx (within_stakeTx Frame.wired_untouched.toSteps ctx caller d)) c

/-- What a successful stake needed and what it wrote: its request was live, the campus open to
stakes, the deposit a settled receipt of the staked asset not credited before, and the
caller's record and the total took its amount; the bank stays. -/
theorem stake_ok {r : Nat} (h : (stake ctx caller d).exec c = (.ok r, c')) :
    ctx.cancelled = false ∧ StakeOpen c ∧ c'.bank = c.bank ∧ ∃ a a' cfg' b₂ b₃,
      c.staking.loadConfig.checkDeposit caller d = .ok () ∧ c.staking.findAccount caller = .ok a ∧
      c.bank.settled d = true ∧ c.staking.recordDeposit .readWrite d = .ok b₂ ∧
      a.stake c.staking.loadConfig d.amount ctx.now = .ok (a', cfg') ∧
      b₂.saveAccount .readWrite a' = .ok b₃ ∧ b₃.saveConfig .readWrite cfg' = .ok c'.staking := by
  unfold stake at h
  obtain ⟨⟨balance, total⟩, c₁, hi, h⟩ := exec_bind_ok.mp h
  have hw := wired_stake_commit ctx caller d c
  rw [hi] at hw
  obtain ⟨u, c₂, hm, h⟩ := exec_bind_ok.mp h
  obtain ⟨u, c₃, he, hp⟩ := exec_bind_ok.mp h
  obtain ⟨-, rfl⟩ : r = balance ∧ c' = c₃ := by simpa [eq_comm] using hp
  have hq₂ : Frame.quiet.rel c₁ c₂ := by
    have := quiet_meter (fun r => (r.set "ccms_staking_total_staked" [] (Float.ofNat total)).add
      "ccms_staking_moved_units_total" ["in"] (Float.ofNat d.amount)) c₁
    rwa [hm] at this
  have hw₂ : Frame.wired.rel c c₂ := by
    have := within_meter Frame.wired_untouched.toPasses (fun r =>
      (r.set "ccms_staking_total_staked" [] (Float.ofNat total)).add
        "ccms_staking_moved_units_total" ["in"] (Float.ofNat d.amount)) c₁
    rw [hm] at this
    exact Frame.wired.trans hw this
  obtain ⟨c₀, htx, hq⟩ := instrumented_ok hi
  obtain ⟨hsite, hl⟩ := stakingTx_passes htx
  obtain ⟨b', c₄, hb, rfl⟩ := stakingTx_ok htx
  obtain ⟨h₁, h₂, h₃, h₄, h₅, h₆⟩ := stakeTx_passes hb
  obtain ⟨a, a', cfg', b₂, b₃, hinit, hdep, hfind, hset, hrec, hst, hsave, hconf, rfl, -⟩ :=
    stakeTx_ok hb
  -- counting the outcome and publishing leave the books and the bank
  have hb₂ := Frame.quiet_books (Frame.quiet.trans hq hq₂)
  have hpub := emit_keeps_books he
  refine ⟨hl, ⟨hsite, h₁, h₂, h₃, h₄, h₅, h₆, hinit, ?_⟩, hpub.2.2.trans hb₂.2.2.1, a, a', cfg',
    b₂, b₃, hdep, hfind, hset, hrec, hst, hsave, hpub.2.1.trans hb₂.2.1 ▸ hconf⟩
  exact (Campus.emits_iff_of_wired hw₂).mp ((emit_ok_iff ctx _ c₂).mp ⟨c', he⟩)

/-- A stake on a campus open to stakes, for a live request and a settled receipt that passes the
ledger's checks, succeeds and writes the caller's record and the total. -/
theorem stake_ok_of {b₂ b₃ : Book} (hl : ctx.cancelled = false) (ho : StakeOpen c)
    (hdep : c.staking.loadConfig.checkDeposit caller d = .ok ())
    (hfind : c.staking.findAccount caller = .ok a) (hset : c.bank.settled d = true)
    (hrec : c.staking.recordDeposit .readWrite d = .ok b₂)
    (hst : a.stake c.staking.loadConfig d.amount ctx.now = .ok (a', cfg'))
    (hsave : b₂.saveAccount .readWrite a' = .ok b₃) (hconf : b₃.saveConfig .readWrite cfg' = .ok b') :
    ∃ c', (stake ctx caller d).exec c = (.ok a'.staked, c') ∧ c'.staking = b' ∧ c'.bank = c.bank := by
  have htx := stakingTx_exec_ok ho.runInTx hl (stakeTx_exec_ok ho.loadConfig ho.findAccount
    ho.settled ho.recordDeposit ho.saveAccount ho.saveConfig ho.initialized hdep hfind hset hrec hst
    hsave hconf)
  have hi : (instrumented "staking" "stake" (stakingTx ctx (Tx.stake ctx caller d))).exec c =
      (.ok (a'.staked, cfg'.totalStaked), ((observeOperation "staking" "stake" "ok").exec
        { c with staking := b' }).2) := by
    rw [exec_instrumented, htx]
  have hw := wired_stake_commit ctx caller d c
  rw [hi] at hw
  set c₁ := ((observeOperation "staking" "stake" "ok").exec { c with staking := b' }).2
  let g : Metrics.Registry → Metrics.Registry := fun r =>
    (r.set "ccms_staking_total_staked" [] (Float.ofNat cfg'.totalStaked)).add
      "ccms_staking_moved_units_total" ["in"] (Float.ofNat d.amount)
  have hw₂ : Frame.wired.rel c ((meter g).exec c₁).2 :=
    Frame.wired.trans hw (within_meter Frame.wired_untouched.toPasses g c₁)
  obtain ⟨c', he⟩ := (emit_ok_iff ctx _ _).mpr (ho.emits.wired hw₂)
  have hb := Frame.quiet_books (Frame.quiet.trans (quiet_observeOperation "staking" "stake" "ok"
    { c with staking := b' }) (quiet_meter g c₁))
  have hpub := emit_keeps_books he
  refine ⟨c', ?_, hpub.2.1.trans hb.2.1, hpub.2.2.trans hb.2.2.1⟩
  unfold stake
  rw [exec_bind, hi]
  dsimp only
  rw [exec_bind, show (meter g).exec c₁ = (.ok (), ((meter g).exec c₁).2) from rfl]
  dsimp only
  rw [exec_bind, he]
  rfl

end Staking

end CampusLedger
