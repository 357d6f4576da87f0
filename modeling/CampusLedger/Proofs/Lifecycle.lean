import CampusLedger.Proofs.Escrow
import CampusLedger.Proofs.Verdicts
/-!
# The lifecycle of a ledger

Each ledger has one controller, fixed when it is created, and is launched once. A committed
transaction body leaves the configuration's guard and launch payload as they were, except the
launch itself, which passes the controller check on unlaunched books and then marks them
launched with its payload. So from any state to any later one the controller, the staking
escrow and, once the ledger is launched, the flag and the payload stay as they were; the flag
turns on only through a launch that the controller calls and that succeeds; and before the
launch no score update, stake, withdrawal or reconciliation succeeds.
-/

namespace CampusLedger

open Act Ledger

namespace Ledger.Guard

variable {g : Guard} {caller : AccountId}

theorem requireController_ok (h : g.requireController caller = .ok ()) :
    caller.isZero = false ∧ caller = g.controller := by
  unfold requireController at h
  split at h
  · cases h
  · rename_i hc
    simp only [Bool.or_eq_true, bne_iff_ne, ne_eq, not_or, Decidable.not_not] at hc
    exact ⟨by simpa using hc.1, hc.2⟩

/-- A caller that may launch is the controller, not empty, and the ledger is not launched. -/
theorem canInitialize_caller (h : g.canInitialize caller = .ok ()) :
    caller.isZero = false ∧ caller = g.controller ∧ g.initialized = false := by
  refine ⟨?_, ?_, canInitialize_ok h⟩ <;>
  · unfold canInitialize at h
    cases hg : g.requireController caller with
    | error e => simp [hg, bind, Except.bind] at h
    | ok u => first | exact (requireController_ok hg).1 | exact (requireController_ok hg).2

@[simp] theorem markInitialized_controller : g.markInitialized.controller = g.controller := rfl

@[simp] theorem markInitialized_initialized : g.markInitialized.initialized = true := rfl

end Ledger.Guard

namespace Staking

/-- What a later state of the staking books keeps of an earlier one: the controller and the
escrow, and, once the ledger is launched, the launch with its asset and threshold. -/
structure Book.Keeps (b b' : Book) : Prop where
  controller : b'.config.guard.controller = b.config.guard.controller
  escrow : b'.config.escrow = b.config.escrow
  launched : b.config.guard.initialized = true →
    b'.config.guard.initialized = true ∧ b'.config.asset = b.config.asset ∧
      b'.config.threshold = b.config.threshold

theorem Book.Keeps.refl (b : Book) : b.Keeps b := ⟨rfl, rfl, fun h => ⟨h, rfl, rfl⟩⟩

theorem Book.Keeps.trans {b₁ b₂ b₃ : Book} (h₁ : b₁.Keeps b₂) (h₂ : b₂.Keeps b₃) : b₁.Keeps b₃ where
  controller := h₂.controller.trans h₁.controller
  escrow := h₂.escrow.trans h₁.escrow
  launched h := by
    obtain ⟨hi, ha, ht⟩ := h₁.launched h
    obtain ⟨hi', ha', ht'⟩ := h₂.launched hi
    exact ⟨hi', ha'.trans ha, ht'.trans ht⟩

variable {b d : Book} {c c' : Campus}

/-- What a committed staking body does to the configuration: a registration, a stake and a
withdrawal leave the guard, the escrow, the asset and the threshold alone; a launch passes the
controller check on unlaunched books and then marks them launched with its payload. -/
theorem Op.config_cases (k : Op) (h : (k.body b).exec c = (.ok ((), d), c')) :
    (d.config.guard = b.config.guard ∧ d.config.escrow = b.config.escrow ∧
        d.config.asset = b.config.asset ∧ d.config.threshold = b.config.threshold) ∨
      ∃ ctx caller asset threshold, k = .launch ctx caller asset threshold ∧
        b.config.guard.canInitialize caller = .ok () ∧
        d.config.guard = b.config.guard.markInitialized ∧ d.config.escrow = b.config.escrow ∧
        d.config.asset = asset ∧ d.config.threshold = threshold := by
  cases k with
  | register ctx caller =>
    obtain ⟨r, h⟩ := step_drop_ok.mp h
    obtain ⟨hcreate, -, -⟩ := registerTx_ok h
    obtain ⟨reg, -, rfl⟩ := Book.createAccount_ok hcreate
    exact Or.inl ⟨rfl, rfl, rfl, rfl⟩
  | launch ctx caller asset threshold =>
    obtain ⟨r, h⟩ := step_drop_ok.mp h
    obtain ⟨hcan, -, rfl, hsave, -⟩ := launchTx_ok h
    obtain rfl := Book.saveConfig_ok hsave
    exact Or.inr ⟨ctx, caller, asset, threshold, rfl, hcan, rfl, rfl, rfl, rfl⟩
  | stake ctx caller deposit =>
    obtain ⟨r, h⟩ := step_drop_ok.mp h
    obtain ⟨a, a', cfg', b₂, b₃, -, -, -, -, hrec, hst, hsave, hconf, -, -⟩ := stakeTx_ok h
    obtain ⟨-, rfl⟩ := Book.recordDeposit_ok hrec
    obtain ⟨reg, -, rfl⟩ := Book.saveAccount_ok hsave
    obtain rfl := Book.saveConfig_ok hconf
    obtain ⟨-, rfl, -, -⟩ := Account.stake_ok hst
    exact Or.inl ⟨rfl, rfl, rfl, rfl⟩
  | withdraw ctx caller amount =>
    obtain ⟨r, h⟩ := step_drop_ok.mp h
    obtain ⟨a, b₁, bank, t, -, -, -, hsave, hconf, -, -, -⟩ := withdrawTx_ok h
    obtain ⟨reg, -, rfl⟩ := Book.saveAccount_ok hsave
    obtain rfl := Book.saveConfig_ok hconf
    exact Or.inl ⟨rfl, rfl, rfl, rfl⟩

theorem Op.keeps (k : Op) (h : (k.body b).exec c = (.ok ((), d), c')) : b.Keeps d := by
  rcases k.config_cases h with ⟨hg, he, ha, ht⟩ | ⟨_, _, _, _, -, hcan, hg, he, -, -⟩
  · exact ⟨by rw [hg], he, fun hi => ⟨by rw [hg]; exact hi, ha, ht⟩⟩
  · -- the launch starts from unlaunched books, so only the controller and escrow are kept
    have hoff := Guard.canInitialize_ok hcan
    exact ⟨by rw [hg]; rfl, he, fun hi => absurd (hi.symm.trans hoff) Bool.noConfusion⟩

end Staking

namespace Reputation

/-- What a later state of the reputation books keeps of an earlier one: the controller, and,
once the ledger is launched, the launch with its weights. -/
structure Book.Keeps (b b' : Book) : Prop where
  controller : b'.config.guard.controller = b.config.guard.controller
  launched : b.config.guard.initialized = true →
    b'.config.guard.initialized = true ∧ b'.config.weights = b.config.weights

theorem Book.Keeps.refl (b : Book) : b.Keeps b := ⟨rfl, fun h => ⟨h, rfl⟩⟩

theorem Book.Keeps.trans {b₁ b₂ b₃ : Book} (h₁ : b₁.Keeps b₂) (h₂ : b₂.Keeps b₃) : b₁.Keeps b₃ where
  controller := h₂.controller.trans h₁.controller
  launched h := by
    obtain ⟨hi, hw⟩ := h₁.launched h
    obtain ⟨hi', hw'⟩ := h₂.launched hi
    exact ⟨hi', hw'.trans hw⟩

variable {b d : Book} {c c' : Campus}

/-- What a committed reputation body does to the configuration: a registration and a score
update leave the guard and the weights alone; a launch passes the controller check on
unlaunched books and then marks them launched with its weights. -/
theorem Op.config_cases (k : Op) (h : (k.body b).exec c = (.ok ((), d), c')) :
    (d.config.guard = b.config.guard ∧ d.config.weights = b.config.weights) ∨
      ∃ ctx caller weights, k = .launch ctx caller weights ∧
        b.config.guard.canInitialize caller = .ok () ∧
        d.config.guard = b.config.guard.markInitialized ∧ d.config.weights = weights := by
  cases k with
  | register ctx caller =>
    obtain ⟨r, h⟩ := step_drop_ok.mp h
    obtain ⟨hcreate, -, -⟩ := registerTx_ok h
    obtain ⟨reg, -, rfl⟩ := Book.createAccount_ok hcreate
    exact Or.inl ⟨rfl, rfl⟩
  | launch ctx caller weights =>
    obtain ⟨r, h⟩ := step_drop_ok.mp h
    obtain ⟨hcan, rfl, hsave, -⟩ := launchTx_ok h
    obtain rfl := Book.saveConfig_ok hsave
    exact Or.inr ⟨ctx, caller, weights, rfl, hcan, rfl, rfl⟩
  | update ctx caller account delta =>
    obtain ⟨r, h⟩ := step_drop_ok.mp h
    obtain ⟨a, a', -, -, -, hsave, -, -⟩ := updateTx_ok h
    obtain ⟨reg, -, rfl⟩ := Book.saveAccount_ok hsave
    exact Or.inl ⟨rfl, rfl⟩

theorem Op.keeps (k : Op) (h : (k.body b).exec c = (.ok ((), d), c')) : b.Keeps d := by
  rcases k.config_cases h with ⟨hg, hw⟩ | ⟨_, _, _, -, hcan, hg, -⟩
  · exact ⟨by rw [hg], fun hi => ⟨by rw [hg]; exact hi, hw⟩⟩
  · have hoff := Guard.canInitialize_ok hcan
    exact ⟨by rw [hg]; rfl, fun hi => absurd (hi.symm.trans hoff) Bool.noConfusion⟩

end Reputation

namespace Staking

variable {c : Campus}

/-- An operation that succeeds committed its body's draft. -/
theorem Op.commits_of_ok (k : Op) (h : (k.act.exec c).1 = .ok ()) :
    ∃ d c₁, (k.body c.staking).exec c = (.ok ((), d), c₁) ∧ (k.act.exec c).2.staking = d := by
  have hk := k.ended c
  rw [h] at hk
  obtain ⟨-, ⟨d, c₁, hb, rfl⟩, hc⟩ := hk.commits_of_ok
  exact ⟨d, c₁, hb, hc.2.1⟩

/-- With the audit queue open, an operation that changed the books succeeded. -/
theorem Op.ok_of_moved (k : Op) (hq : c.outbox.closed = false)
    (h : (k.act.exec c).2.staking ≠ c.staking) : (k.act.exec c).1 = .ok () := by
  rcases (k.outcome hq).1 with ⟨-, hquiet⟩ | ⟨hr, -⟩
  · exact absurd (Frame.quiet_books hquiet).2.1 h
  · exact hr

/-- An operation that changed the books and did not succeed committed its draft and then
panicked publishing its event. -/
theorem Op.panicked_of_moved (k : Op) (h : (k.act.exec c).2.staking ≠ c.staking)
    (hfail : (k.act.exec c).1 ≠ .ok ()) : ∃ m, (k.act.exec c).1 = .error (.panic m) := by
  rcases k.ended c with ⟨-, hquiet⟩ | ⟨hr | hp, -⟩
  · exact absurd (Frame.quiet_books hquiet).2.1 h
  · exact absurd hr hfail
  · exact hp

theorem Op.stake_fails_unlaunched (h : c.staking.config.guard.initialized = false)
    (ctx : Context) (caller : AccountId) (d : Transfer) :
    ((Op.stake ctx caller d).act.exec c).1 ≠ .ok () := by
  intro hok
  obtain ⟨b, c₁, hb, -⟩ := (Op.stake ctx caller d).commits_of_ok hok
  obtain ⟨r, hb⟩ := step_drop_ok.mp hb
  obtain ⟨-, -, -, -, -, hinit, -⟩ := stakeTx_ok hb
  exact Bool.false_ne_true (h.symm.trans (Guard.requireInitialized_ok hinit))

theorem Op.withdraw_fails_unlaunched (h : c.staking.config.guard.initialized = false)
    (ctx : Context) (caller : AccountId) (amount : Nat) :
    ((Op.withdraw ctx caller amount).act.exec c).1 ≠ .ok () := by
  intro hok
  obtain ⟨b, c₁, hb, -⟩ := (Op.withdraw ctx caller amount).commits_of_ok hok
  obtain ⟨r, hb⟩ := step_drop_ok.mp hb
  obtain ⟨-, -, -, -, hinit, -⟩ := withdrawTx_ok hb
  exact Bool.false_ne_true (h.symm.trans (Guard.requireInitialized_ok hinit))

theorem reconcile_fails_unlaunched (h : c.staking.config.guard.initialized = false)
    (ctx : Context) (r : Reconciliation) (c' : Campus) : (reconcile ctx).exec c ≠ (.ok r, c') :=
  fun hr => Bool.false_ne_true (h.symm.trans (reconcile_ok hr).1)

end Staking

namespace Reputation

variable {c : Campus}

/-- An operation that succeeds committed its body's draft. -/
theorem Op.commits_of_ok (k : Op) (h : (k.act.exec c).1 = .ok ()) :
    ∃ d c₁, (k.body c.reputation).exec c = (.ok ((), d), c₁) ∧
      (k.act.exec c).2.reputation = d := by
  have hk := k.ended c
  rw [h] at hk
  obtain ⟨-, ⟨d, c₁, hb, rfl⟩, hc⟩ := hk.commits_of_ok
  exact ⟨d, c₁, hb, hc.1⟩

/-- With the audit queue open, an operation that changed the books succeeded. -/
theorem Op.ok_of_moved (k : Op) (hq : c.outbox.closed = false)
    (h : (k.act.exec c).2.reputation ≠ c.reputation) : (k.act.exec c).1 = .ok () := by
  rcases (k.outcome hq).1 with ⟨-, hquiet⟩ | ⟨hr, -⟩
  · exact absurd (Frame.quiet_books hquiet).1 h
  · exact hr

theorem Op.update_fails_unlaunched (h : c.reputation.config.guard.initialized = false)
    (ctx : Context) (caller account : AccountId) (delta : Scores) :
    ((Op.update ctx caller account delta).act.exec c).1 ≠ .ok () := by
  intro hok
  obtain ⟨b, c₁, hb, -⟩ := (Op.update ctx caller account delta).commits_of_ok hok
  obtain ⟨r, hb⟩ := step_drop_ok.mp hb
  obtain ⟨-, -, hpriv, -⟩ := updateTx_ok hb
  exact Bool.false_ne_true (h.symm.trans (Guard.requirePrivileged_ok hpriv))

end Reputation

theorem Call.keeps_staking (k : Call) (c : Campus) : c.staking.Keeps (k.next c).staking := by
  rcases k.staking_next c with h | ⟨o, d, c₁, -, hb, h⟩
  · rw [h]
    exact .refl _
  · rw [h]
    exact o.keeps hb

theorem Call.keeps_reputation (k : Call) (c : Campus) :
    c.reputation.Keeps (k.next c).reputation := by
  rcases k.reputation_next c with h | ⟨o, d, c₁, -, hb, h⟩
  · rw [h]
    exact .refl _
  · rw [h]
    exact o.keeps hb

theorem Campus.keeps_after (c : Campus) (calls : List Call) :
    c.staking.Keeps (c.after calls).staking ∧ c.reputation.Keeps (c.after calls).reputation :=
  Campus.after_induction (fun c' => c.staking.Keeps c'.staking ∧ c.reputation.Keeps c'.reputation)
    (fun k c' h => ⟨h.1.trans (k.keeps_staking c'), h.2.trans (k.keeps_reputation c')⟩)
    ⟨.refl _, .refl _⟩ calls

variable {c : Campus}

/-- The staking ledger becomes launched only by a launch that its controller calls and that
succeeds. -/
theorem Call.staking_launched_by (k : Call) (hq : c.outbox.closed = false)
    (h0 : c.staking.config.guard.initialized = false)
    (h1 : (k.next c).staking.config.guard.initialized = true) :
    ∃ ctx caller asset threshold, k = .staking (.launch ctx caller asset threshold) ∧
      caller.isZero = false ∧ caller = c.staking.config.guard.controller ∧
      (k.act.exec c).1 = .ok () := by
  rcases k.staking_next c with h | ⟨o, d, c₁, rfl, hb, h⟩
  · rw [h, h0] at h1
    cases h1
  rw [h] at h1
  rcases o.config_cases hb with ⟨hg, -⟩ | ⟨ctx, caller, asset, threshold, rfl, hcan, -⟩
  · rw [hg, h0] at h1
    cases h1
  obtain ⟨hz, hctl, -⟩ := Guard.canInitialize_caller hcan
  have hmoved : ((Staking.Op.launch ctx caller asset threshold).act.exec c).2.staking ≠
      c.staking := by
    intro heq
    rw [h.symm.trans heq, h0] at h1
    cases h1
  exact ⟨ctx, caller, asset, threshold, rfl, hz, hctl, Staking.Op.ok_of_moved _ hq hmoved⟩

/-- The reputation ledger becomes launched only by a launch that its controller calls and that
succeeds. -/
theorem Call.reputation_launched_by (k : Call) (hq : c.outbox.closed = false)
    (h0 : c.reputation.config.guard.initialized = false)
    (h1 : (k.next c).reputation.config.guard.initialized = true) :
    ∃ ctx caller weights, k = .reputation (.launch ctx caller weights) ∧
      caller.isZero = false ∧ caller = c.reputation.config.guard.controller ∧
      (k.act.exec c).1 = .ok () := by
  rcases k.reputation_next c with h | ⟨o, d, c₁, rfl, hb, h⟩
  · rw [h, h0] at h1
    cases h1
  rw [h] at h1
  rcases o.config_cases hb with ⟨hg, -⟩ | ⟨ctx, caller, weights, rfl, hcan, -⟩
  · rw [hg, h0] at h1
    cases h1
  obtain ⟨hz, hctl, -⟩ := Guard.canInitialize_caller hcan
  have hmoved : ((Reputation.Op.launch ctx caller weights).act.exec c).2.reputation ≠
      c.reputation := by
    intro heq
    rw [h.symm.trans heq, h0] at h1
    cases h1
  exact ⟨ctx, caller, weights, rfl, hz, hctl, Reputation.Op.ok_of_moved _ hq hmoved⟩

/-- Along every run from a campus whose audit queue is open: from any state to any later one
each ledger keeps its controller (and the staking escrow) and, once launched, its launch and
payload; a ledger becomes launched only by a successful launch from its non-empty controller;
and on unlaunched books no stake, withdrawal, reconciliation or score update succeeds, a live
score update being refused as unauthorized unless the controller calls it. -/
theorem ledger_launch_is_once_and_final (hq : c.outbox.closed = false) (calls later : List Call) :
    let c' := c.after calls
    let c'' := c'.after later
    c'.staking.Keeps c''.staking ∧ c'.reputation.Keeps c''.reputation ∧
    (∀ k : Call, c'.staking.config.guard.initialized = false →
      (k.next c').staking.config.guard.initialized = true →
      ∃ ctx caller asset threshold, k = .staking (.launch ctx caller asset threshold) ∧
        caller.isZero = false ∧ caller = c'.staking.config.guard.controller ∧
        (k.act.exec c').1 = .ok ()) ∧
    (∀ k : Call, c'.reputation.config.guard.initialized = false →
      (k.next c').reputation.config.guard.initialized = true →
      ∃ ctx caller weights, k = .reputation (.launch ctx caller weights) ∧
        caller.isZero = false ∧ caller = c'.reputation.config.guard.controller ∧
        (k.act.exec c').1 = .ok ()) ∧
    (c'.staking.config.guard.initialized = false →
      (∀ ctx caller d, ((Staking.Op.stake ctx caller d).act.exec c').1 ≠ .ok ()) ∧
      (∀ ctx caller amount, ((Staking.Op.withdraw ctx caller amount).act.exec c').1 ≠ .ok ()) ∧
      (∀ ctx r c₁, (Staking.reconcile ctx).exec c' ≠ (.ok r, c₁))) ∧
    (c'.reputation.config.guard.initialized = false →
      ∀ ctx caller account delta,
        ((Reputation.Op.update ctx caller account delta).act.exec c').1 ≠ .ok () ∧
        (ctx.cancelled = false → c'.faults.armed = [] →
          ((Reputation.Op.update ctx caller account delta).act.exec c').1 =
            .error (if caller.isZero || caller != c'.reputation.config.guard.controller then
              .make .unauthorized "caller is not the ledger controller"
              else .make .notInitialized "ledger is not initialized"))) := by
  intro c' c''
  have hq' : c'.outbox.closed = false := Campus.open_after hq calls
  obtain ⟨hs, hr⟩ := Campus.keeps_after c' later
  refine ⟨hs, hr, fun k h0 h1 => k.staking_launched_by hq' h0 h1,
    fun k h0 h1 => k.reputation_launched_by hq' h0 h1, fun h => ?_, fun h => ?_⟩
  · exact ⟨Staking.Op.stake_fails_unlaunched h, Staking.Op.withdraw_fails_unlaunched h,
      Staking.reconcile_fails_unlaunched h⟩
  · exact fun ctx caller account delta =>
      ⟨Reputation.Op.update_fails_unlaunched h ctx caller account delta,
        fun hl hf => Reputation.Op.update_unlaunched hf hl h⟩

theorem launch_once_on_fresh_campus :
    let c := Campus.fresh {} 0
    let calls : List Call := [.staking (.register { now := ⟨0⟩ } ⟨"ann"⟩)]
    let later : List Call := [.staking (.launch { now := ⟨0⟩ } ⟨"controller"⟩ ⟨7⟩ 10)]
    c.outbox.closed = false ∧
      let c' := c.after calls
      let c'' := c'.after later
      c'.staking.Keeps c''.staking ∧ c'.reputation.Keeps c''.reputation ∧
      (∀ k : Call, c'.staking.config.guard.initialized = false →
        (k.next c').staking.config.guard.initialized = true →
        ∃ ctx caller asset threshold, k = .staking (.launch ctx caller asset threshold) ∧
          caller.isZero = false ∧ caller = c'.staking.config.guard.controller ∧
          (k.act.exec c').1 = .ok ()) ∧
      (∀ k : Call, c'.reputation.config.guard.initialized = false →
        (k.next c').reputation.config.guard.initialized = true →
        ∃ ctx caller weights, k = .reputation (.launch ctx caller weights) ∧
          caller.isZero = false ∧ caller = c'.reputation.config.guard.controller ∧
          (k.act.exec c').1 = .ok ()) ∧
      (c'.staking.config.guard.initialized = false →
        (∀ ctx caller d, ((Staking.Op.stake ctx caller d).act.exec c').1 ≠ .ok ()) ∧
        (∀ ctx caller amount, ((Staking.Op.withdraw ctx caller amount).act.exec c').1 ≠ .ok ()) ∧
        (∀ ctx r c₁, (Staking.reconcile ctx).exec c' ≠ (.ok r, c₁))) ∧
      (c'.reputation.config.guard.initialized = false →
        ∀ ctx caller account delta,
          ((Reputation.Op.update ctx caller account delta).act.exec c').1 ≠ .ok () ∧
          (ctx.cancelled = false → c'.faults.armed = [] →
            ((Reputation.Op.update ctx caller account delta).act.exec c').1 =
              .error (if caller.isZero || caller != c'.reputation.config.guard.controller then
                .make .unauthorized "caller is not the ledger controller"
                else .make .notInitialized "ledger is not initialized"))) :=
  ⟨rfl, ledger_launch_is_once_and_final rfl _ _⟩

/-- Once the queue of an asynchronous audit publisher is closed, as when the server's deferred
close runs while a request is still being served, the controller's launch commits and then fails
on its event: the staking ledger becomes launched by a launch that did not succeed. -/
theorem launch_after_close_launches_and_panics :
    let c := (Act.closeAudit.exec
      ((Campus.fresh { auditBuffer := 4 } 0).after [.bank (.mint ⟨7⟩ ⟨"alice"⟩ 100)])).2
    let k : Call := .staking (.launch { now := ⟨0⟩ } ⟨"controller"⟩ ⟨7⟩ 10)
    c.staking.config.guard.initialized = false ∧
      (k.next c).staking.config.guard.initialized = true ∧
      (k.act.exec c).1 = .error (.panic "send on closed channel") :=
  ⟨rfl, rfl, rfl⟩

end CampusLedger
