import CampusLedger.Proofs.Calls
/-!
# An operation succeeds exactly when it commits

Publishing the audit event of a committed operation fails only on a closed audit queue, and no
call closes the queue. So on a campus whose queue is open every operation of either ledger
either fails, leaving everything the services own as it was, or commits the draft of its body
and returns success; and the queue is still open after every call of a run.

Publishing writes only the journal, the feed, the stream sink, the queue and the identifiers
issued. The frames that allow those writes are kept by delivering, storing and publishing an
event, whatever the outcome.
-/

namespace CampusLedger

open Act

namespace Act

variable {α β : Type} {F : Frame}

/-- The audit queue stays open, or closed, as it was. -/
def Frame.queue : Frame where
  rel c c' := c'.outbox.closed = c.outbox.closed
  refl _ := rfl
  trans h₁ h₂ := h₂.trans h₁

theorem Frame.quiet_queue {c c' : Campus} (h : Frame.quiet.rel c c') : Frame.queue.rel c c' := by
  have h' : c'.core = c.core := h
  simp only [Campus.core, Campus.Core.mk.injEq] at h'
  exact congrArg Audit.Outbox.closed h'.2.2.2.2.2.1

theorem accept_closed (o : Audit.Outbox) (e : Audit.Event) : (o.accept e).2.closed = o.closed := by
  unfold Audit.Outbox.accept
  split_ifs <;> rfl

/-- An open queue never answers that it is closed. -/
theorem accept_ne_closed {o : Audit.Outbox} (e : Audit.Event) (h : o.closed = false) :
    (o.accept e).1 ≠ .closed := by
  unfold Audit.Outbox.accept
  split_ifs <;> simp_all

theorem Frame.queue_publishes : Frame.queue.Publishes where
  quiet _ _ := Frame.quiet_queue
  hub _ _ := rfl
  streamed _ _ := rfl
  journal _ _ := rfl
  issued _ := rfl
  outbox c e := accept_closed c.outbox e
  dropped _ := rfl

/-- A run of `x` that fails changes nothing the services own, and one that succeeds moves the
campus along `F`: then every run does. -/
theorem within_of_outcomes {x : Act α} (hq : ∀ c c', Frame.quiet.rel c c' → F.rel c c')
    (hx : Atomic x) (hok : ∀ c a c', x.exec c = (.ok a, c') → F.rel c c') : Within F x := by
  intro c
  rcases h : x.exec c with ⟨e | a, c'⟩
  · exact hq _ _ (hx c e c' h)
  · exact hok c a c' h

theorem write_raises {P : Failure → Prop} (e : Audit.Event) : Raises P (write e) := by
  unfold write
  refine raises_bind (raises_modifyGet _) fun hit => ?_
  cases hit
  · exact raises_bind (raises_modify _) fun _ => deliver_raises _
  · exact raises_pure _

theorem exec_ok_of_raises {x : Act α} (hx : Raises (fun _ => False) x) (c : Campus) :
    ∃ a c', x.exec c = (.ok a, c') := by
  rcases h : x.exec c with ⟨e | a, c'⟩
  · exact (hx c e c' h).elim
  · exact ⟨a, c', rfl⟩

/-- Publishing an event through an open queue succeeds. -/
theorem emit_ok {c : Campus} (ctx : Context) (e : Audit.Event) (hc : c.outbox.closed = false) :
    ∃ c', (emit ctx e).exec c = (.ok (), c') := by
  unfold emit
  rw [exec_bind, exec_get]
  dsimp only
  split
  · exact ⟨_, rfl⟩
  · rw [exec_bind]
    simp only [nextUuid, exec_modifyGet]
    rw [exec_bind, exec_get]
    dsimp only
    rw [exec_bind, exec_modify]
    dsimp only
    split
    · obtain ⟨u, c', h⟩ := exec_ok_of_raises (write_raises _) _
      exact ⟨c', h⟩
    · exact ⟨_, rfl⟩
    · exact ⟨_, rfl⟩
    · rename_i hd
      exact absurd hd (accept_ne_closed _ hc)

theorem report_ok {c : Campus} (g : Metrics.Registry → Metrics.Registry) (ctx : Context)
    (e : Audit.Event) (a : α) (hc : c.outbox.closed = false) :
    ∃ c', (do meter g; emit ctx e; pure a : Act α).exec c = (.ok a, c') := by
  have hm : (meter g).exec c = (.ok (), ((meter g).exec c).2) := rfl
  have hc' : ((meter g).exec c).2.outbox.closed = false :=
    (Frame.quiet_queue (quiet_meter g c)).trans hc
  obtain ⟨c', h⟩ := emit_ok ctx e hc'
  exact ⟨c', by rw [exec_bind, hm]; dsimp only; rw [exec_bind, h]; rfl⟩

theorem emit_pure_ok {c : Campus} (ctx : Context) (e : Audit.Event) (a : α)
    (hc : c.outbox.closed = false) : ∃ c', (do emit ctx e; pure a : Act α).exec c = (.ok a, c') := by
  obtain ⟨c', h⟩ := emit_ok ctx e hc
  exact ⟨c', by rw [exec_bind, h]; rfl⟩

end Act

/-- How a call that runs a transaction ended, with outcome `r` and campus `c'` after it, when
publishing cannot fail: it failed and left everything the services own as it was, or it
committed its draft, reaching a campus `c₁` with `S c c₁`, and succeeded. -/
def Outcome (S : Campus → Campus → Prop) (c : Campus) (r : Except Failure Unit) (c' : Campus) :
    Prop :=
  ((∃ e, r = .error e) ∧ Frame.quiet.rel c c') ∨ (r = .ok () ∧ ∃ c₁, S c c₁ ∧ Frame.books.rel c₁ c')

namespace Act

variable {α β : Type}

theorem service_outcome {l o : String} {x : Act α} {post : α → Act β}
    {S : Campus → Campus → Prop} (hx : Atomic x)
    (hok : ∀ c a c', x.exec c = (.ok a, c') → S c c' ∧ Frame.queue.rel c c')
    (hpost : ∀ a, Within .books (post a)) (hpostq : ∀ a, Within .queue (post a))
    (hpost_ok : ∀ a c, c.outbox.closed = false → ∃ v c', (post a).exec c = (.ok v, c'))
    {c : Campus} (hc : c.outbox.closed = false) :
    Outcome S c ((instrumented l o x >>= post >>= fun _ => pure ()).exec c).1
        ((instrumented l o x >>= post >>= fun _ => pure ()).exec c).2 ∧
      ((instrumented l o x >>= post >>= fun _ => pure ()).exec c).2.outbox.closed = false := by
  rw [exec_drop, exec_bind]
  rcases hi : (instrumented l o x).exec c with ⟨e | a, c₁⟩
  · obtain ⟨c₂, hx₂, hq⟩ := instrumented_error hi
    have hq' := Frame.quiet.trans (hx c e c₂ hx₂) hq
    exact ⟨Or.inl ⟨⟨e, rfl⟩, hq'⟩, (Frame.quiet_queue hq').trans hc⟩
  · obtain ⟨c₂, hx₂, hq⟩ := instrumented_ok hi
    obtain ⟨hS, hq₂⟩ := hok c a c₂ hx₂
    -- the commit keeps the queue open, and so does counting the outcome
    have hc₁ : c₁.outbox.closed = false := ((Frame.quiet_queue hq).trans hq₂).trans hc
    obtain ⟨v, c₃, hp⟩ := hpost_ok a c₁ hc₁
    have hb : Frame.books.rel c₂ c₃ := by
      have := Frame.books.trans (Frame.quiet_books hq) (hpost a c₁)
      rwa [hp] at this
    have hq₃ : c₃.outbox.closed = false := by
      have := hpostq a c₁
      rw [hp] at this
      exact this.trans hc₁
    dsimp only
    rw [hp]
    exact ⟨Or.inr ⟨rfl, c₂, hS, hb⟩, hq₃⟩

end Act

namespace Staking

open Act

variable {α : Type}

/-- A staking body that succeeds leaves the audit queue alone. -/
theorem Op.body_queue (k : Op) {b d : Book} {c c₁ : Campus}
    (h : (k.body b).exec c = (.ok ((), d), c₁)) : Frame.queue.rel c c₁ := by
  cases k with
  | register ctx caller =>
    obtain ⟨r, h⟩ := step_drop_ok.mp h
    obtain ⟨-, rfl, -⟩ := registerTx_ok h
    rfl
  | launch _ caller asset threshold =>
    obtain ⟨r, h⟩ := step_drop_ok.mp h
    obtain ⟨-, -, -, -, bank, -, rfl⟩ := launchTx_ok h
    rfl
  | stake ctx caller deposit =>
    obtain ⟨r, h⟩ := step_drop_ok.mp h
    obtain ⟨-, -, -, -, -, -, -, -, -, -, -, -, -, rfl, -⟩ := stakeTx_ok h
    rfl
  | withdraw ctx caller amount =>
    obtain ⟨r, h⟩ := step_drop_ok.mp h
    obtain ⟨-, -, bank, -, -, -, -, -, -, -, rfl, -⟩ := withdrawTx_ok h
    rfl

theorem stakingTx_outcome {ctx : Context} {tx : OnStaking α} (k : Op)
    (hk : k.body = (tx >>= fun _ => pure ())) {c c' : Campus} {a : α}
    (h : (stakingTx ctx tx).exec c = (.ok a, c')) : Commits k.body c c' ∧ Frame.queue.rel c c' := by
  have hcom := stakingTx_commits h
  rw [← hk] at hcom
  obtain ⟨d, c₁, hb, rfl⟩ := hcom
  exact ⟨⟨d, c₁, hb, rfl⟩, show c₁.outbox.closed = c.outbox.closed from k.body_queue hb⟩

/-- On a campus whose audit queue is open, a staking operation either fails leaving everything
the services own as it was, or commits the draft of its body and succeeds; and the queue stays
open. -/
theorem Op.outcome (k : Op) {c : Campus} (hc : c.outbox.closed = false) :
    Outcome (Commits k.body) c (k.act.exec c).1 (k.act.exec c).2 ∧
      (k.act.exec c).2.outbox.closed = false := by
  cases k with
  | register ctx caller =>
    unfold Op.act Staking.register
    dsimp only
    refine service_outcome ?_ (fun c a c' h => ?_) (fun _ => books_report _ _ _ _)
      (fun _ => within_report Frame.queue_publishes _ _ _ _)
      (fun _ _ hc => ⟨_, report_ok _ _ _ _ hc⟩) hc
    · split
      · exact atomic_bind (within_throw _) fun _ => atomic_stakingTx ctx (atomic_registerTx ctx caller)
      · exact atomic_stakingTx ctx (atomic_registerTx ctx caller)
    · split at h
      · simp at h
      · exact stakingTx_outcome (.register ctx caller) rfl h
  | launch ctx caller asset threshold =>
    unfold Op.act Staking.launch
    refine service_outcome (atomic_stakingTx ctx (atomic_launchTx caller asset threshold))
      (fun _ _ _ h => stakingTx_outcome (.launch ctx caller asset threshold) rfl h)
      (fun _ => within_bind (books_emit _ _) fun _ => within_pure _)
      (fun _ => within_bind (within_emit Frame.queue_publishes _ _) fun _ => within_pure _)
      (fun cfg _ hc => ⟨_, emit_pure_ok ctx _ cfg hc⟩) hc
  | stake ctx caller d =>
    unfold Op.act Staking.stake
    exact service_outcome (atomic_stakingTx ctx (atomic_stakeTx ctx caller d))
      (fun _ _ _ h => stakingTx_outcome (.stake ctx caller d) rfl h)
      (fun _ => books_report _ _ _ _) (fun _ => within_report Frame.queue_publishes _ _ _ _)
      (fun _ _ hc => ⟨_, report_ok _ _ _ _ hc⟩) hc
  | withdraw ctx caller amount =>
    unfold Op.act Staking.withdraw
    exact service_outcome (atomic_stakingTx ctx (atomic_withdrawTx ctx caller amount))
      (fun _ _ _ h => stakingTx_outcome (.withdraw ctx caller amount) rfl h)
      (fun _ => books_report _ _ _ _) (fun _ => within_report Frame.queue_publishes _ _ _ _)
      (fun _ _ hc => ⟨_, report_ok _ _ _ _ hc⟩) hc

end Staking

namespace Reputation

open Act

variable {α : Type}

theorem reputationTx_outcome {ctx : Context} {tx : OnReputation α} (k : Op)
    (hk : k.body = (tx >>= fun _ => pure ())) {c c' : Campus} {a : α}
    (h : (reputationTx ctx tx).exec c = (.ok a, c')) :
    Commits k.body c c' ∧ Frame.queue.rel c c' := by
  have hcom := reputationTx_commits h
  rw [← hk] at hcom
  obtain ⟨d, c₁, hb, rfl⟩ := hcom
  have hc₁ : c₁ = c := k.body_campus hb
  subst hc₁
  exact ⟨⟨d, c₁, hb, rfl⟩, rfl⟩

/-- On a campus whose audit queue is open, a reputation operation either fails leaving
everything the services own as it was, or commits the draft of its body and succeeds; and the
queue stays open. -/
theorem Op.outcome (k : Op) {c : Campus} (hc : c.outbox.closed = false) :
    Outcome (Commits k.body) c (k.act.exec c).1 (k.act.exec c).2 ∧
      (k.act.exec c).2.outbox.closed = false := by
  cases k with
  | register ctx caller =>
    unfold Op.act Reputation.register
    dsimp only
    refine service_outcome ?_ (fun c a c' h => ?_) (fun _ => books_report _ _ _ _)
      (fun _ => within_report Frame.queue_publishes _ _ _ _)
      (fun _ _ hc => ⟨_, report_ok _ _ _ _ hc⟩) hc
    · split
      · exact atomic_bind (within_throw _) fun _ =>
          atomic_reputationTx ctx (atomic_registerTx ctx caller)
      · exact atomic_reputationTx ctx (atomic_registerTx ctx caller)
    · split at h
      · simp at h
      · exact reputationTx_outcome (.register ctx caller) rfl h
  | launch ctx caller weights =>
    unfold Op.act Reputation.launch
    exact service_outcome (atomic_reputationTx ctx (atomic_launchTx caller weights))
      (fun _ _ _ h => reputationTx_outcome (.launch ctx caller weights) rfl h)
      (fun _ => within_bind (books_emit _ _) fun _ => within_pure _)
      (fun _ => within_bind (within_emit Frame.queue_publishes _ _) fun _ => within_pure _)
      (fun r _ hc => ⟨_, emit_pure_ok ctx _ r hc⟩) hc
  | update ctx caller account delta =>
    unfold Op.act Reputation.updateScores
    exact service_outcome (atomic_reputationTx ctx (atomic_updateTx ctx caller account delta))
      (fun _ _ _ h => reputationTx_outcome (.update ctx caller account delta) rfl h)
      (fun _ => within_bind (books_emit _ _) fun _ => within_pure _)
      (fun _ => within_bind (within_emit Frame.queue_publishes _ _) fun _ => within_pure _)
      (fun r _ hc => ⟨_, emit_pure_ok ctx _ r hc⟩) hc

end Reputation

/-- A bank call leaves the audit queue alone. -/
theorem BankCall.queue (k : BankCall) : Within .queue k.act := by
  have hq : ∀ c c', Frame.quiet.rel c c' → Frame.queue.rel c c' := fun _ _ => Frame.quiet_queue
  cases k with
  | mint asset issuer supply =>
    refine within_of_outcomes hq (atomic_mint asset issuer supply) fun c _ c' h => ?_
    obtain ⟨-, b, -, rfl⟩ := mint_ok.mp h
    rfl
  | optIn asset holder =>
    refine within_of_outcomes hq (atomic_optIn asset holder) fun c _ c' h => ?_
    obtain ⟨-, b, -, rfl⟩ := optIn_ok.mp h
    rfl
  | transfer asset source target amount =>
    refine within_bind (within_of_outcomes hq (atomic_transfer asset source target amount)
      fun c _ c' h => ?_) fun _ => within_pure _
    obtain ⟨-, b, -, rfl⟩ := transfer_ok.mp h
    rfl
  | settled t => exact within_mono (within_bind (quiet_settled t) fun _ => within_pure _) hq
  | balance asset holder =>
    exact within_mono (within_bind (quiet_balance asset holder) fun _ => within_pure _) hq

/-- A call keeps the audit queue open. -/
theorem Call.keeps_open (k : Call) {c : Campus} (hc : c.outbox.closed = false) :
    (k.next c).outbox.closed = false := by
  cases k with
  | staking o => exact (o.outcome hc).2
  | reputation o => exact (o.outcome hc).2
  | read o => exact (Frame.quiet_queue (o.quiet c)).trans hc
  | bank o => exact (o.queue c).trans hc

/-- The audit queue of a campus is open after every run that starts with it open. -/
theorem Campus.open_after {c : Campus} (hc : c.outbox.closed = false) (calls : List Call) :
    (c.after calls).outbox.closed = false :=
  Campus.after_induction (fun c => c.outbox.closed = false) (fun k _ h => k.keeps_open h) hc calls

end CampusLedger
