import CampusLedger.Proofs.Act
/-!
# Store steps and transactions

A transaction runs its steps on a draft of one ledger's books and commits the draft only when
every step succeeded; a view runs them on the committed books and drops what they wrote. The
lemmas here say what each step of the stores does when it succeeds, and that a step which does
not reach the bank leaves everything the services own alone.

An act is atomic when a failed run leaves everything the services own as it was: it may only
have spent armed faults and moved metrics. Every step of a store first passes its call site,
where an armed fault fails it, and then reads or writes the books through the store's own
functions. A successful run of a transaction is taken apart step by step: a step that succeeds
without touching the draft or the campus leaves only what its success says, and so does a step
that only writes the draft.
-/

namespace CampusLedger

namespace Act

variable {α β σ : Type} {F : Frame}

theorem within_lift {x : Act α} (hx : Within F x) (b : σ) :
    Within F ((liftM x : StateT σ Act α) b) := by
  intro c
  rw [step_lift]
  rcases h : x.exec c with ⟨_ | a, c₁⟩ <;> simpa [h] using hx c

theorem within_step_bind {x : StateT σ Act α} {f : α → StateT σ Act β} (hx : ∀ b, Within F (x b))
    (hf : ∀ a b, Within F (f a b)) (b : σ) : Within F ((x >>= f) b) := by
  intro c
  rw [step_bind]
  rcases h : (x b).exec c with ⟨_ | ⟨a, b₁⟩, c₁⟩
  · simpa [h] using hx b c
  · exact F.trans (by simpa [h] using hx b c) (hf a b₁ c₁)

theorem within_step_tryCatch {x : StateT σ Act α} {h : Failure → StateT σ Act α}
    (hx : ∀ b, Within F (x b)) (hh : ∀ e b, Within F (h e b)) (b : σ) :
    Within F ((tryCatch x h : StateT σ Act α) b) := by
  intro c
  rw [step_tryCatch]
  rcases hc : (x b).exec c with ⟨_ | p, c₁⟩
  · exact F.trans (by simpa [hc] using hx b c) (hh _ b c₁)
  · simpa [hc] using hx b c

theorem within_step_get (b : σ) : Within F ((get : StateT σ Act σ) b) := fun c => F.refl c

theorem within_step_set (b b' : σ) : Within F ((set b' : StateT σ Act PUnit) b) :=
  fun c => F.refl c

/-- A failed run of `x` leaves everything the services own as it was. -/
def Atomic (x : Act α) : Prop := ∀ c e c', x.exec c = (.error e, c') → Frame.quiet.rel c c'

theorem atomic_of_quiet {x : Act α} (hx : Within .quiet x) : Atomic x :=
  fun c _ _ h => by simpa [h] using hx c

theorem atomic_bind {x : Act α} {f : α → Act β} (hx : Within .quiet x) (hf : ∀ a, Atomic (f a)) :
    Atomic (x >>= f) := by
  intro c e c' h
  rcases exec_bind_error.mp h with h | ⟨a, c₁, h₁, h⟩
  · simpa [h] using hx c
  · exact Frame.quiet.trans (by simpa [h₁] using hx c) (hf a c₁ e c' h)

theorem atomic_bind_safe {x : Act α} {f : α → Act β} (hx : Atomic x)
    (hf : ∀ a, Raises (fun _ => False) (f a)) : Atomic (x >>= f) := by
  intro c e c' h
  rcases exec_bind_error.mp h with h | ⟨a, c₁, -, h⟩
  · exact hx c e c' h
  · exact (hf a c₁ e c' h).elim

theorem atomic_get_bind {f : Campus → Act α} (hf : ∀ c, Atomic (f c)) : Atomic (get >>= f) := by
  intro c e c' h
  rw [exec_bind, exec_get] at h
  exact hf c c e c' h

theorem atomic_lift {x : Act α} (hx : Atomic x) (b : σ) : Atomic ((liftM x : StateT σ Act α) b) := by
  intro c e c' h
  rw [step_lift] at h
  rcases hc : x.exec c with ⟨_ | a, c₁⟩ <;> rw [hc] at h
  · cases h; exact hx c e c' hc
  · cases h

theorem atomic_step_bind {x : StateT σ Act α} {f : α → StateT σ Act β}
    (hx : ∀ b, Within .quiet (x b)) (hf : ∀ a b, Atomic (f a b)) (b : σ) :
    Atomic ((x >>= f) b) := by
  intro c e c' h
  rw [step_bind] at h
  rcases hc : (x b).exec c with ⟨_ | ⟨a, b₁⟩, c₁⟩ <;> rw [hc] at h
  · cases h; simpa [hc] using hx b c
  · exact Frame.quiet.trans (by simpa [hc] using hx b c) (hf a b₁ c₁ e c' h)

theorem atomic_step_bind_pure {x : StateT σ Act α} (hx : ∀ b, Atomic (x b)) (g : α → β) (b : σ) :
    Atomic ((x >>= fun a => pure (g a)) b) := by
  intro c e c' h
  rw [step_bind] at h
  rcases hc : (x b).exec c with ⟨_ | ⟨a, b₁⟩, c₁⟩ <;> rw [hc] at h
  · cases h; exact hx b c e c' hc
  · cases h

theorem atomic_step_throw_bind (e : Failure) (f : α → StateT σ Act β) (b : σ) :
    Atomic ((throw e >>= f : StateT σ Act β) b) := by
  intro c e' c' h
  simp only [step_bind, step_throw, Prod.mk.injEq] at h
  rw [← h.2]
  exact Frame.quiet.refl c

theorem atomic_step_tryCatch_throw {x : StateT σ Act α} (hx : ∀ b, Atomic (x b))
    (g : Failure → Failure) (b : σ) :
    Atomic ((tryCatch x fun e => throw (g e) : StateT σ Act α) b) := by
  intro c e c' h
  rw [step_tryCatch] at h
  rcases hc : (x b).exec c with ⟨_ | p, c₁⟩ <;> rw [hc] at h
  · simp only [step_throw, Prod.mk.injEq] at h
    rw [← h.2]
    exact hx b c _ c₁ hc
  · cases h

theorem step_tryCatch_throw_ok {x : StateT σ Act α} {g : Failure → Failure} {b b' : σ}
    {c c' : Campus} {v : α} :
    ((tryCatch x fun e => throw (g e) : StateT σ Act α) b).exec c = (.ok (v, b'), c') ↔
      (x b).exec c = (.ok (v, b'), c') := by
  rw [step_tryCatch]
  rcases (x b).exec c with ⟨_ | p, c₁⟩ <;> simp

theorem quiet_checkContext (ctx : Context) (what : String) : Within .quiet (checkContext ctx what) := by
  unfold checkContext
  split
  · exact within_throw _
  · exact within_pure _

theorem checkContext_ok {ctx : Context} {what : String} {c c' : Campus} {u : Unit} :
    (checkContext ctx what).exec c = (.ok u, c') ↔ ctx.cancelled = false ∧ c' = c := by
  unfold checkContext
  cases ctx.cancelled <;> simp [eq_comm]

theorem quiet_observeOperation (l o outcome : String) : Within .quiet (observeOperation l o outcome) :=
  quiet_meter _

theorem exec_instrumented (l o : String) (x : Act α) (c : Campus) :
    (instrumented l o x).exec c = match x.exec c with
      | (.ok a, c₁) => (.ok a, ((observeOperation l o "ok").exec c₁).2)
      | (.error e, c₁) => (.error e, ((observeOperation l o e.code.name).exec c₁).2) := by
  unfold instrumented
  rw [exec_bind, exec_tryCatch]
  rcases x.exec c with ⟨e | a, c₁⟩ <;> rfl

theorem instrumented_ok {l o : String} {x : Act α} {c c' : Campus} {a : α}
    (h : (instrumented l o x).exec c = (.ok a, c')) :
    ∃ c₁, x.exec c = (.ok a, c₁) ∧ Frame.quiet.rel c₁ c' := by
  rw [exec_instrumented] at h
  rcases hx : x.exec c with ⟨e | a₁, c₁⟩ <;> rw [hx] at h
  · cases h
  · simp only [Prod.mk.injEq, Except.ok.injEq] at h
    obtain ⟨rfl, rfl⟩ := h
    exact ⟨c₁, rfl, quiet_observeOperation l o "ok" c₁⟩

theorem instrumented_error {l o : String} {x : Act α} {c c' : Campus} {e : Failure}
    (h : (instrumented l o x).exec c = (.error e, c')) :
    ∃ c₁, x.exec c = (.error e, c₁) ∧ Frame.quiet.rel c₁ c' := by
  rw [exec_instrumented] at h
  rcases hx : x.exec c with ⟨e₁ | a₁, c₁⟩ <;> rw [hx] at h
  · simp only [Prod.mk.injEq, Except.error.injEq] at h
    obtain ⟨rfl, rfl⟩ := h
    exact ⟨c₁, rfl, quiet_observeOperation l o _ c₁⟩
  · cases h

theorem stakingTx_ok {ctx : Context} {body : OnStaking α} {c c' : Campus} {a : α}
    (h : (stakingTx ctx body).exec c = (.ok a, c')) :
    ∃ d c₁, (body c.staking).exec c = (.ok (a, d), c₁) ∧ c' = { c₁ with staking := d } := by
  unfold stakingTx at h
  obtain ⟨_, c₁, hf, k₁⟩ := exec_bind_ok.mp h
  obtain ⟨_, c₂, hx, k₂⟩ := exec_bind_ok.mp k₁
  obtain ⟨_, c₃, hg, k₃⟩ := exec_bind_ok.mp k₂
  obtain ⟨⟨a₁, d⟩, c₄, hb, k₄⟩ := exec_bind_ok.mp k₃
  obtain ⟨_, c₅, hm, k₅⟩ := exec_bind_ok.mp k₄
  obtain ⟨-, rfl⟩ := faultAt_ok.mp hf
  obtain ⟨-, rfl⟩ := checkContext_ok.mp hx
  simp only [exec_get, exec_modify, exec_pure, Prod.mk.injEq, Except.ok.injEq] at hg hm k₅
  obtain ⟨rfl, rfl⟩ := hg
  obtain ⟨-, rfl⟩ := hm
  obtain ⟨rfl, rfl⟩ := k₅
  exact ⟨d, c₄, hb, rfl⟩


theorem atomic_stakingTx (ctx : Context) {body : OnStaking α} (hb : ∀ b, Atomic (body b)) :
    Atomic (stakingTx ctx body) := by
  unfold stakingTx
  refine atomic_bind (quiet_faultAt _) fun _ => atomic_bind (quiet_checkContext _ _) fun _ => ?_
  refine atomic_get_bind fun c => atomic_bind_safe (hb c.staking) fun p => ?_
  exact raises_bind (raises_modify _) fun _ => raises_pure _

theorem reputationTx_ok {ctx : Context} {body : OnReputation α} {c c' : Campus} {a : α}
    (h : (reputationTx ctx body).exec c = (.ok a, c')) :
    ∃ d c₁, (body c.reputation).exec c = (.ok (a, d), c₁) ∧ c' = { c₁ with reputation := d } := by
  unfold reputationTx at h
  obtain ⟨_, c₁, hf, k₁⟩ := exec_bind_ok.mp h
  obtain ⟨_, c₂, hx, k₂⟩ := exec_bind_ok.mp k₁
  obtain ⟨_, c₃, hg, k₃⟩ := exec_bind_ok.mp k₂
  obtain ⟨⟨a₁, d⟩, c₄, hb, k₄⟩ := exec_bind_ok.mp k₃
  obtain ⟨_, c₅, hm, k₅⟩ := exec_bind_ok.mp k₄
  obtain ⟨-, rfl⟩ := faultAt_ok.mp hf
  obtain ⟨-, rfl⟩ := checkContext_ok.mp hx
  simp only [exec_get, exec_modify, exec_pure, Prod.mk.injEq, Except.ok.injEq] at hg hm k₅
  obtain ⟨rfl, rfl⟩ := hg
  obtain ⟨-, rfl⟩ := hm
  obtain ⟨rfl, rfl⟩ := k₅
  exact ⟨d, c₄, hb, rfl⟩


theorem atomic_reputationTx (ctx : Context) {body : OnReputation α} (hb : ∀ b, Atomic (body b)) :
    Atomic (reputationTx ctx body) := by
  unfold reputationTx
  refine atomic_bind (quiet_faultAt _) fun _ => atomic_bind (quiet_checkContext _ _) fun _ => ?_
  refine atomic_get_bind fun c => atomic_bind_safe (hb c.reputation) fun p => ?_
  exact raises_bind (raises_modify _) fun _ => raises_pure _

theorem stakingView_ok {ctx : Context} {body : OnStaking α} {c c' : Campus} {a : α}
    (h : (stakingView ctx body).exec c = (.ok a, c')) :
    ∃ d, (body c.staking).exec c = (.ok (a, d), c') := by
  unfold stakingView at h
  obtain ⟨_, c₁, hf, k₁⟩ := exec_bind_ok.mp h
  obtain ⟨_, c₂, hx, k₂⟩ := exec_bind_ok.mp k₁
  obtain ⟨_, c₃, hg, k₃⟩ := exec_bind_ok.mp k₂
  obtain ⟨⟨a₁, d⟩, c₄, hb, k₄⟩ := exec_bind_ok.mp k₃
  obtain ⟨-, rfl⟩ := faultAt_ok.mp hf
  obtain ⟨-, rfl⟩ := checkContext_ok.mp hx
  simp only [exec_get, exec_pure, Prod.mk.injEq, Except.ok.injEq] at hg k₄
  obtain ⟨rfl, rfl⟩ := hg
  obtain ⟨rfl, rfl⟩ := k₄
  exact ⟨d, hb⟩

theorem quiet_stakingView (ctx : Context) {body : OnStaking α} (hb : ∀ b, Within .quiet (body b)) :
    Within .quiet (stakingView ctx body) := by
  unfold stakingView
  refine within_bind (quiet_faultAt _) fun _ => within_bind (quiet_checkContext _ _) fun _ => ?_
  refine within_get_bind fun c => within_bind (hb c.staking) (fun p => ?_) c
  exact within_pure _

theorem quiet_reputationView (ctx : Context) {body : OnReputation α}
    (hb : ∀ b, Within .quiet (body b)) : Within .quiet (reputationView ctx body) := by
  unfold reputationView
  refine within_bind (quiet_faultAt _) fun _ => within_bind (quiet_checkContext _ _) fun _ => ?_
  refine within_get_bind fun c => within_bind (hb c.reputation) (fun p => ?_) c
  exact within_pure _


theorem exec_bankResult (r : Except BankFault α) (c : Campus) :
    (bankResult r).exec c = match r with
      | .ok a => (.ok a, c)
      | .error f => (.error (.bank f), c) := by
  cases r <;> rfl

theorem quiet_bankResult (r : Except BankFault α) : Within .quiet (bankResult r) := by
  cases r
  · exact within_throw _
  · exact within_pure _

theorem quiet_settled (t : Transfer) : Within .quiet (settled t) :=
  within_bind (quiet_faultAt _) fun _ => within_get_bind fun c => within_pure _ c

theorem settled_ok {t : Transfer} {c c' : Campus} {v : Bool} :
    (settled t).exec c = (.ok v, c') ↔
      (c.faults.trip "bank.Settled").1 = false ∧ v = c.bank.settled t ∧ c' = c := by
  unfold settled
  rw [exec_bind, exec_faultAt]
  cases (c.faults.trip "bank.Settled").1 <;> simp [eq_comm]

theorem quiet_balance (asset : AssetId) (holder : AccountId) : Within .quiet (balance asset holder) :=
  within_bind (quiet_faultAt _) fun _ => within_get_bind fun c => quiet_bankResult _ c

theorem balance_ok {asset : AssetId} {holder : AccountId} {c c' : Campus} {v : Nat} :
    (balance asset holder).exec c = (.ok v, c') ↔
      (c.faults.trip "bank.Balance").1 = false ∧ c.bank.balance asset holder = .ok v ∧ c' = c := by
  unfold balance
  rw [exec_bind, exec_faultAt]
  cases (c.faults.trip "bank.Balance").1
  · simp only [Bool.false_eq_true, ↓reduceIte, exec_bind, exec_get, exec_bankResult, true_and]
    cases c.bank.balance asset holder <;> simp [eq_comm]
  · simp

theorem atomic_mint (asset : AssetId) (issuer : AccountId) (supply : Nat) :
    Atomic (mint asset issuer supply) := by
  unfold mint
  refine atomic_bind (quiet_faultAt _) fun _ => atomic_get_bind fun c => ?_
  exact atomic_bind_safe (atomic_of_quiet (quiet_bankResult _)) fun _ => raises_modify _

theorem mint_ok {asset : AssetId} {issuer : AccountId} {supply : Nat} {c c' : Campus} {u : Unit} :
    (mint asset issuer supply).exec c = (.ok u, c') ↔ (c.faults.trip "bank.Mint").1 = false ∧
      ∃ b, c.bank.mint asset issuer supply = .ok b ∧ c' = { c with bank := b } := by
  unfold mint
  rw [exec_bind, exec_faultAt]
  cases (c.faults.trip "bank.Mint").1
  · simp only [Bool.false_eq_true, ↓reduceIte, exec_bind, exec_get, exec_bankResult, true_and]
    cases c.bank.mint asset issuer supply <;> simp [eq_comm]
  · simp

theorem atomic_optIn (asset : AssetId) (holder : AccountId) : Atomic (optIn asset holder) := by
  unfold optIn
  refine atomic_bind (quiet_faultAt _) fun _ => atomic_get_bind fun c => ?_
  exact atomic_bind_safe (atomic_of_quiet (quiet_bankResult _)) fun _ => raises_modify _

theorem optIn_ok {asset : AssetId} {holder : AccountId} {c c' : Campus} {u : Unit} :
    (optIn asset holder).exec c = (.ok u, c') ↔ (c.faults.trip "bank.OptIn").1 = false ∧
      ∃ b, c.bank.optIn asset holder = .ok b ∧ c' = { c with bank := b } := by
  unfold optIn
  rw [exec_bind, exec_faultAt]
  cases (c.faults.trip "bank.OptIn").1
  · simp only [Bool.false_eq_true, ↓reduceIte, exec_bind, exec_get, exec_bankResult, true_and]
    cases c.bank.optIn asset holder <;> simp [eq_comm]
  · simp

theorem atomic_transfer (asset : AssetId) (source target : AccountId) (amount : Nat) :
    Atomic (transfer asset source target amount) := by
  unfold transfer
  refine atomic_bind (quiet_faultAt _) fun _ => atomic_get_bind fun c => ?_
  refine atomic_bind_safe (atomic_of_quiet (quiet_bankResult _)) fun p => ?_
  exact raises_bind (raises_modify _) fun _ => raises_pure _

theorem transfer_ok {asset : AssetId} {source target : AccountId} {amount : Nat} {c c' : Campus}
    {t : Transfer} :
    (transfer asset source target amount).exec c = (.ok t, c') ↔
      (c.faults.trip "bank.Transfer").1 = false ∧ ∃ b,
        c.bank.transfer asset source target amount (Uuid.numbered (c.issued + 1)) = .ok (b, t) ∧
        c' = { c with bank := b, issued := c.issued + 1 } := by
  unfold transfer
  rw [exec_bind, exec_faultAt]
  cases (c.faults.trip "bank.Transfer").1
  · simp only [Bool.false_eq_true, ↓reduceIte, exec_bind, exec_get, exec_bankResult, true_and]
    rcases c.bank.transfer asset source target amount (Uuid.numbered (c.issued + 1)) with
      _ | ⟨b, t'⟩ <;> simp [eq_comm]
  · simp


theorem ledgers_mint (asset : AssetId) (issuer : AccountId) (supply : Nat) :
    Within .ledgers (mint asset issuer supply) := by
  unfold mint
  refine within_bind (ledgers_of_quiet (quiet_faultAt _)) fun _ => within_get_bind fun c => ?_
  exact rel_bind (ledgers_of_quiet (quiet_bankResult _) c)
    fun _ => within_modify fun _ => ⟨rfl, rfl, Nat.le_refl _⟩

theorem ledgers_optIn (asset : AssetId) (holder : AccountId) : Within .ledgers (optIn asset holder) := by
  unfold optIn
  refine within_bind (ledgers_of_quiet (quiet_faultAt _)) fun _ => within_get_bind fun c => ?_
  exact rel_bind (ledgers_of_quiet (quiet_bankResult _) c)
    fun _ => within_modify fun _ => ⟨rfl, rfl, Nat.le_refl _⟩

theorem ledgers_transfer (asset : AssetId) (source target : AccountId) (amount : Nat) :
    Within .ledgers (transfer asset source target amount) := by
  unfold transfer
  refine within_bind (ledgers_of_quiet (quiet_faultAt _)) fun _ => within_get_bind fun c => ?_
  refine rel_bind (ledgers_of_quiet (quiet_bankResult _) c) fun _ => ?_
  exact within_bind (within_modify fun _ => ⟨rfl, rfl, Nat.le_succ _⟩) fun _ => within_pure _


theorem guarded_ok {site : String} {f : Unit → StateT σ Act α} {b b' : σ} {c c' : Campus} {v : α} :
    ((liftM (faultAt site) >>= f : StateT σ Act α) b).exec c = (.ok (v, b'), c') ↔
      (c.faults.trip site).1 = false ∧ (f () b).exec c = (.ok (v, b'), c') := by
  rw [step_bind, step_lift, exec_faultAt]
  cases (c.faults.trip site).1 <;> simp

theorem quiet_guarded {site : String} {f : Unit → StateT σ Act α}
    (hf : ∀ b, Within .quiet (f () b)) (b : σ) :
    Within .quiet ((liftM (faultAt site) >>= f : StateT σ Act α) b) :=
  within_step_bind (within_lift (quiet_faultAt site)) (fun _ => hf) b

theorem stakingStored_ok {r : Except RecordFault α} {b b' : Staking.Book} {c c' : Campus}
    {v : α} : ((OnStaking.stored r) b).exec c = (.ok (v, b'), c') ↔ r = .ok v ∧ b' = b ∧ c' = c := by
  cases r <;> simp [OnStaking.stored, eq_comm, and_assoc]

theorem quiet_stakingStored (r : Except RecordFault α) (b : Staking.Book) :
    Within .quiet ((OnStaking.stored r) b) := by
  cases r
  · exact within_throw _
  · exact within_pure _

theorem reputationStored_ok {r : Except RecordFault α} {b b' : Reputation.Book}
    {c c' : Campus} {v : α} :
    ((OnReputation.stored r) b).exec c = (.ok (v, b'), c') ↔ r = .ok v ∧ b' = b ∧ c' = c := by
  cases r <;> simp [OnReputation.stored, eq_comm, and_assoc]

theorem quiet_reputationStored (r : Except RecordFault α) (b : Reputation.Book) :
    Within .quiet ((OnReputation.stored r) b) := by
  cases r
  · exact within_throw _
  · exact within_pure _


theorem stakeLoadConfig_ok {b b' : Staking.Book} {c c' : Campus} {cfg : Staking.Config}
    (h : (OnStaking.loadConfig b).exec c = (.ok (cfg, b'), c')) :
    cfg = b.loadConfig ∧ b' = b ∧ c' = c := by
  rw [OnStaking.loadConfig, guarded_ok] at h
  obtain ⟨-, h⟩ := h
  simp only [step_bind, step_get, step_pure, Prod.mk.injEq, Except.ok.injEq] at h
  obtain ⟨⟨rfl, rfl⟩, rfl⟩ := h
  exact ⟨rfl, rfl, rfl⟩

theorem stakingWrite_ok {w : Staking.Book → Except RecordFault Staking.Book}
    {b b' : Staking.Book} {c c' : Campus} {u : PUnit}
    (h : ((get >>= fun x => OnStaking.stored (w x) >>= fun y => set y : OnStaking PUnit) b).exec c =
      (.ok (u, b'), c')) : w b = .ok b' ∧ c' = c := by
  cases hw : w b with
  | error f => simp [step_bind, hw, OnStaking.stored] at h
  | ok b₁ =>
    simp only [step_bind, step_get, hw, OnStaking.stored, step_pure, step_set, Prod.mk.injEq,
      Except.ok.injEq] at h
    obtain ⟨⟨-, rfl⟩, rfl⟩ := h
    exact ⟨rfl, rfl⟩

theorem stakeSaveConfig_ok {acc : Ledger.Access} {cfg : Staking.Config} {b b' : Staking.Book}
    {c c' : Campus} {u : Unit} (h : (OnStaking.saveConfig acc cfg b).exec c = (.ok (u, b'), c')) :
    b.saveConfig acc cfg = .ok b' ∧ c' = c := by
  rw [OnStaking.saveConfig, guarded_ok] at h
  exact stakingWrite_ok h.2

theorem stakeCreateAccount_ok {acc : Ledger.Access} {a : Staking.Account} {b b' : Staking.Book}
    {c c' : Campus} {u : Unit} (h : (OnStaking.createAccount acc a b).exec c = (.ok (u, b'), c')) :
    b.createAccount acc a = .ok b' ∧ c' = c := by
  rw [OnStaking.createAccount, guarded_ok] at h
  exact stakingWrite_ok h.2

theorem stakeSaveAccount_ok {acc : Ledger.Access} {a : Staking.Account} {b b' : Staking.Book}
    {c c' : Campus} {u : Unit} (h : (OnStaking.saveAccount acc a b).exec c = (.ok (u, b'), c')) :
    b.saveAccount acc a = .ok b' ∧ c' = c := by
  rw [OnStaking.saveAccount, guarded_ok] at h
  exact stakingWrite_ok h.2

theorem stakeRecordDeposit_ok {acc : Ledger.Access} {t : Transfer} {b b' : Staking.Book}
    {c c' : Campus} {u : Unit} (h : (OnStaking.recordDeposit acc t b).exec c = (.ok (u, b'), c')) :
    b.recordDeposit acc t = .ok b' ∧ c' = c := by
  rw [OnStaking.recordDeposit, guarded_ok] at h
  exact stakingWrite_ok h.2

theorem stakeFindAccount_ok {id : AccountId} {a : Staking.Account} {b b' : Staking.Book}
    {c c' : Campus} (h : (OnStaking.findAccount id b).exec c = (.ok (a, b'), c')) :
    b.findAccount id = .ok a ∧ b' = b ∧ c' = c := by
  rw [OnStaking.findAccount, guarded_ok] at h
  obtain ⟨-, h⟩ := h
  simp only [step_bind, step_get] at h
  exact stakingStored_ok.mp h

theorem quiet_stakingWrite (w : Staking.Book → Except RecordFault Staking.Book) (b : Staking.Book) :
    Within .quiet ((get >>= fun x => OnStaking.stored (w x) >>= fun y => set y : OnStaking PUnit) b) :=
  within_step_bind within_step_get (fun _ => within_step_bind (quiet_stakingStored _)
    fun y b => within_step_set b y) b

theorem quiet_stakeLoadConfig (b : Staking.Book) : Within .quiet (OnStaking.loadConfig b) :=
  quiet_guarded (fun b => within_step_bind within_step_get (fun _ _ => within_pure _) b) b

theorem quiet_stakeSaveConfig (acc : Ledger.Access) (cfg : Staking.Config) (b : Staking.Book) :
    Within .quiet (OnStaking.saveConfig acc cfg b) :=
  quiet_guarded (quiet_stakingWrite _) b

theorem quiet_stakeCreateAccount (acc : Ledger.Access) (a : Staking.Account) (b : Staking.Book) :
    Within .quiet (OnStaking.createAccount acc a b) :=
  quiet_guarded (quiet_stakingWrite _) b

theorem quiet_stakeSaveAccount (acc : Ledger.Access) (a : Staking.Account) (b : Staking.Book) :
    Within .quiet (OnStaking.saveAccount acc a b) :=
  quiet_guarded (quiet_stakingWrite _) b

theorem quiet_stakeRecordDeposit (acc : Ledger.Access) (t : Transfer) (b : Staking.Book) :
    Within .quiet (OnStaking.recordDeposit acc t b) :=
  quiet_guarded (quiet_stakingWrite _) b

theorem quiet_stakeFindAccount (id : AccountId) (b : Staking.Book) :
    Within .quiet (OnStaking.findAccount id b) :=
  quiet_guarded (fun b => within_step_bind within_step_get (fun _ => quiet_stakingStored _) b) b

theorem repLoadConfig_ok {b b' : Reputation.Book} {c c' : Campus} {cfg : Reputation.Config}
    (h : (OnReputation.loadConfig b).exec c = (.ok (cfg, b'), c')) :
    cfg = b.loadConfig ∧ b' = b ∧ c' = c := by
  rw [OnReputation.loadConfig, guarded_ok] at h
  obtain ⟨-, h⟩ := h
  simp only [step_bind, step_get, step_pure, Prod.mk.injEq, Except.ok.injEq] at h
  obtain ⟨⟨rfl, rfl⟩, rfl⟩ := h
  exact ⟨rfl, rfl, rfl⟩

theorem reputationWrite_ok {w : Reputation.Book → Except RecordFault Reputation.Book}
    {b b' : Reputation.Book} {c c' : Campus} {u : PUnit}
    (h : ((get >>= fun x => OnReputation.stored (w x) >>= fun y => set y : OnReputation PUnit) b).exec c =
      (.ok (u, b'), c')) : w b = .ok b' ∧ c' = c := by
  cases hw : w b with
  | error f => simp [step_bind, hw, OnReputation.stored] at h
  | ok b₁ =>
    simp only [step_bind, step_get, hw, OnReputation.stored, step_pure, step_set, Prod.mk.injEq,
      Except.ok.injEq] at h
    obtain ⟨⟨-, rfl⟩, rfl⟩ := h
    exact ⟨rfl, rfl⟩

theorem repSaveConfig_ok {acc : Ledger.Access} {cfg : Reputation.Config} {b b' : Reputation.Book}
    {c c' : Campus} {u : Unit} (h : (OnReputation.saveConfig acc cfg b).exec c = (.ok (u, b'), c')) :
    b.saveConfig acc cfg = .ok b' ∧ c' = c := by
  rw [OnReputation.saveConfig, guarded_ok] at h
  exact reputationWrite_ok h.2

theorem repCreateAccount_ok {acc : Ledger.Access} {a : Reputation.Account} {b b' : Reputation.Book}
    {c c' : Campus} {u : Unit} (h : (OnReputation.createAccount acc a b).exec c = (.ok (u, b'), c')) :
    b.createAccount acc a = .ok b' ∧ c' = c := by
  rw [OnReputation.createAccount, guarded_ok] at h
  exact reputationWrite_ok h.2

theorem repSaveAccount_ok {acc : Ledger.Access} {a : Reputation.Account} {b b' : Reputation.Book}
    {c c' : Campus} {u : Unit} (h : (OnReputation.saveAccount acc a b).exec c = (.ok (u, b'), c')) :
    b.saveAccount acc a = .ok b' ∧ c' = c := by
  rw [OnReputation.saveAccount, guarded_ok] at h
  exact reputationWrite_ok h.2

theorem repFindAccount_ok {id : AccountId} {a : Reputation.Account} {b b' : Reputation.Book}
    {c c' : Campus} (h : (OnReputation.findAccount id b).exec c = (.ok (a, b'), c')) :
    b.findAccount id = .ok a ∧ b' = b ∧ c' = c := by
  rw [OnReputation.findAccount, guarded_ok] at h
  obtain ⟨-, h⟩ := h
  simp only [step_bind, step_get] at h
  exact reputationStored_ok.mp h

theorem quiet_reputationWrite (w : Reputation.Book → Except RecordFault Reputation.Book) (b : Reputation.Book) :
    Within .quiet ((get >>= fun x => OnReputation.stored (w x) >>= fun y => set y : OnReputation PUnit) b) :=
  within_step_bind within_step_get (fun _ => within_step_bind (quiet_reputationStored _)
    fun y b => within_step_set b y) b

theorem quiet_repLoadConfig (b : Reputation.Book) : Within .quiet (OnReputation.loadConfig b) :=
  quiet_guarded (fun b => within_step_bind within_step_get (fun _ _ => within_pure _) b) b

theorem quiet_repSaveConfig (acc : Ledger.Access) (cfg : Reputation.Config) (b : Reputation.Book) :
    Within .quiet (OnReputation.saveConfig acc cfg b) :=
  quiet_guarded (quiet_reputationWrite _) b

theorem quiet_repCreateAccount (acc : Ledger.Access) (a : Reputation.Account) (b : Reputation.Book) :
    Within .quiet (OnReputation.createAccount acc a b) :=
  quiet_guarded (quiet_reputationWrite _) b

theorem quiet_repSaveAccount (acc : Ledger.Access) (a : Reputation.Account) (b : Reputation.Book) :
    Within .quiet (OnReputation.saveAccount acc a b) :=
  quiet_guarded (quiet_reputationWrite _) b

theorem quiet_repFindAccount (id : AccountId) (b : Reputation.Book) :
    Within .quiet (OnReputation.findAccount id b) :=
  quiet_guarded (fun b => within_step_bind within_step_get (fun _ => quiet_reputationStored _) b) b

theorem repFindAccounts_ok {ids : List AccountId} {as : List Reputation.Account}
    {b b' : Reputation.Book} {c c' : Campus}
    (h : (OnReputation.findAccounts ids b).exec c = (.ok (as, b'), c')) :
    as = b.findAccounts ids ∧ b' = b ∧ c' = c := by
  rw [OnReputation.findAccounts, guarded_ok] at h
  obtain ⟨-, h⟩ := h
  simp only [step_bind, step_get, step_pure, Prod.mk.injEq, Except.ok.injEq] at h
  obtain ⟨⟨rfl, rfl⟩, rfl⟩ := h
  exact ⟨rfl, rfl, rfl⟩

theorem quiet_repFindAccounts (ids : List AccountId) (b : Reputation.Book) :
    Within .quiet (OnReputation.findAccounts ids b) :=
  quiet_guarded (fun b => within_step_bind within_step_get (fun _ _ => within_pure _) b) b


theorem internally_ok {msg : String} {x : StateT σ Act α} {b b' : σ} {c c' : Campus} {v : α} :
    ((internally msg x : StateT σ Act α) b).exec c = (.ok (v, b'), c') ↔
      (x b).exec c = (.ok (v, b'), c') := by
  unfold internally
  exact step_tryCatch_throw_ok

theorem accountAccess_ok {x : StateT σ Act α} {b b' : σ} {c c' : Campus} {v : α} :
    ((accountAccess x : StateT σ Act α) b).exec c = (.ok (v, b'), c') ↔
      (x b).exec c = (.ok (v, b'), c') := by
  unfold accountAccess
  exact step_tryCatch_throw_ok

theorem assetAccess_ok {msg : String} {x : StateT σ Act α} {b b' : σ} {c c' : Campus} {v : α} :
    ((assetAccess msg x : StateT σ Act α) b).exec c = (.ok (v, b'), c') ↔
      (x b).exec c = (.ok (v, b'), c') := by
  unfold assetAccess
  exact step_tryCatch_throw_ok

theorem check_ok {r : Except Failure Unit} {b b' : σ} {c c' : Campus} {u : Unit}
    (h : ((check r : StateT σ Act Unit) b).exec c = (.ok (u, b'), c')) :
    r = .ok () ∧ b' = b ∧ c' = c := by
  cases r with
  | error e => cases h
  | ok u₀ =>
    simp only [check, step_pure, Prod.mk.injEq, Except.ok.injEq] at h
    obtain ⟨⟨-, rfl⟩, rfl⟩ := h
    exact ⟨rfl, rfl, rfl⟩

theorem quiet_internally {msg : String} {x : StateT σ Act α} (hx : ∀ b, Within .quiet (x b))
    (b : σ) : Within .quiet ((internally msg x : StateT σ Act α) b) :=
  within_step_tryCatch hx (fun _ _ => within_throw _) b

theorem quiet_accountAccess {x : StateT σ Act α} (hx : ∀ b, Within .quiet (x b)) (b : σ) :
    Within .quiet ((accountAccess x : StateT σ Act α) b) :=
  within_step_tryCatch hx (fun _ _ => within_throw _) b

theorem quiet_assetAccess {msg : String} {x : StateT σ Act α} (hx : ∀ b, Within .quiet (x b))
    (b : σ) : Within .quiet ((assetAccess msg x : StateT σ Act α) b) :=
  within_step_tryCatch hx (fun _ _ => within_throw _) b

theorem atomic_assetAccess {msg : String} {x : StateT σ Act α} (hx : ∀ b, Atomic (x b)) (b : σ) :
    Atomic ((assetAccess msg x : StateT σ Act α) b) :=
  atomic_step_tryCatch_throw hx _ b

theorem quiet_check (r : Except Failure Unit) (b : σ) :
    Within .quiet ((check r : StateT σ Act Unit) b) := by
  cases r
  · exact within_throw _
  · exact within_pure _

theorem step_bind_steady {x : StateT σ Act α} {f : α → StateT σ Act β} {P : α → Prop}
    {b b' : σ} {c c' : Campus} {v : β} (h : ((x >>= f) b).exec c = (.ok (v, b'), c'))
    (hx : ∀ a b₁ c₁, (x b).exec c = (.ok (a, b₁), c₁) → P a ∧ b₁ = b ∧ c₁ = c) :
    ∃ a, P a ∧ (f a b).exec c = (.ok (v, b'), c') := by
  obtain ⟨a, b₁, c₁, hx₁, hf⟩ := step_bind_ok.mp h
  obtain ⟨ha, rfl, rfl⟩ := hx a b₁ c₁ hx₁
  exact ⟨a, ha, hf⟩

theorem step_bind_write {x : StateT σ Act PUnit} {f : PUnit → StateT σ Act β} {W : σ → Prop}
    {b b' : σ} {c c' : Campus} {v : β} (h : ((x >>= f) b).exec c = (.ok (v, b'), c'))
    (hx : ∀ u b₁ c₁, (x b).exec c = (.ok (u, b₁), c₁) → W b₁ ∧ c₁ = c) :
    ∃ b₁, W b₁ ∧ (f ⟨⟩ b₁).exec c = (.ok (v, b'), c') := by
  obtain ⟨u, b₁, c₁, hx₁, hf⟩ := step_bind_ok.mp h
  obtain ⟨hw, rfl⟩ := hx u b₁ c₁ hx₁
  exact ⟨b₁, hw, hf⟩

/-- A handler that only rethrows cannot turn a failure into a success. -/
theorem step_tryCatch_ok {x : StateT σ Act α} {h : Failure → StateT σ Act α}
    (hh : ∀ e b c, ∃ e', (h e b).exec c = (.error e', c)) {b b' : σ} {c c' : Campus} {v : α} :
    ((tryCatch x h : StateT σ Act α) b).exec c = (.ok (v, b'), c') ↔
      (x b).exec c = (.ok (v, b'), c') := by
  rw [step_tryCatch]
  rcases hx : (x b).exec c with ⟨e | p, c₁⟩
  · obtain ⟨e', he⟩ := hh e b c₁
    simp [he]
  · simp

theorem liftSettled_ok {t : Transfer} {b b' : σ} {c c' : Campus} {v : Bool}
    (h : ((liftM (settled t) : StateT σ Act Bool) b).exec c = (.ok (v, b'), c')) :
    v = c.bank.settled t ∧ b' = b ∧ c' = c := by
  obtain ⟨hs, rfl⟩ := step_lift_ok.mp h
  obtain ⟨-, rfl, rfl⟩ := settled_ok.mp hs
  exact ⟨rfl, rfl, rfl⟩

theorem liftOptIn_ok {asset : AssetId} {holder : AccountId} {b b' : σ} {c c' : Campus} {u : Unit}
    (h : ((liftM (optIn asset holder) : StateT σ Act Unit) b).exec c = (.ok (u, b'), c')) :
    b' = b ∧ ∃ bank, c.bank.optIn asset holder = .ok bank ∧ c' = { c with bank } := by
  obtain ⟨ho, rfl⟩ := step_lift_ok.mp h
  obtain ⟨-, bank, hbank, rfl⟩ := optIn_ok.mp ho
  exact ⟨rfl, bank, hbank, rfl⟩

theorem liftTransfer_ok {asset : AssetId} {source target : AccountId} {amount : Nat} {b b' : σ}
    {c c' : Campus} {t : Transfer}
    (h : ((liftM (transfer asset source target amount) : StateT σ Act Transfer) b).exec c =
      (.ok (t, b'), c')) :
    b' = b ∧ ∃ bank,
      c.bank.transfer asset source target amount (Uuid.numbered (c.issued + 1)) = .ok (bank, t) ∧
      c' = { c with bank, issued := c.issued + 1 } := by
  obtain ⟨ht, rfl⟩ := step_lift_ok.mp h
  obtain ⟨-, bank, hbank, rfl⟩ := transfer_ok.mp ht
  exact ⟨rfl, bank, hbank, rfl⟩

end Act

end CampusLedger
