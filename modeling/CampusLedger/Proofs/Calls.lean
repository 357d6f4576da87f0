import CampusLedger.Proofs.Transactions
/-!
# Calls on a campus

A client drives a campus by calls: the operations and the reads of the two ledgers, and the
bank's own acts. A run is a list of calls made one after another, whatever the outcome of each;
the campus after a call is the one its act leaves, also when the call fails.

An operation of a ledger runs its transaction, counts its outcome, and on success reports its
result and publishes its audit event. So the campus after an operation is either the one before
it, up to metrics and spent faults, or the committed draft of its body followed by publishing,
which leaves both ledgers and the bank alone.
-/

namespace CampusLedger

open Act

namespace Act

variable {α β σ : Type}

theorem exec_drop (x : Act α) (c : Campus) :
    (x >>= fun _ => pure ()).exec c = ((x.exec c).1.map fun _ => (), (x.exec c).2) := by
  rw [exec_bind]
  rcases x.exec c with ⟨_ | _, _⟩ <;> rfl

/-- How a call that runs a transaction ended, with outcome `r` and campus `c'` after it: it
failed and left everything the services own as it was; or it committed its draft, reaching a
campus `c₁` with `S c c₁`, and then, publishing, either succeeded or panicked. -/
def Ended (S : Campus → Campus → Prop) (c : Campus) (r : Except Failure Unit) (c' : Campus) :
    Prop :=
  ((∃ e, r = .error e) ∧ Frame.quiet.rel c c') ∨
    ((r = .ok () ∨ ∃ t, r = .error (.panic t)) ∧ ∃ c₁, S c c₁ ∧ Frame.books.rel c₁ c')

theorem Ended.quiet_of_error {S : Campus → Campus → Prop} {c c' : Campus} {e : Failure}
    (h : Ended S c (.error e) c') (he : ∀ t, e ≠ .panic t) : Frame.quiet.rel c c' := by
  rcases h with ⟨-, hq⟩ | ⟨hr | ⟨t, ht⟩, -⟩
  · exact hq
  · cases hr
  · cases ht
    exact absurd rfl (he t)

theorem Ended.commits_of_ok {S : Campus → Campus → Prop} {c c' : Campus}
    (h : Ended S c (.ok ()) c') : ∃ c₁, S c c₁ ∧ Frame.books.rel c₁ c' := by
  rcases h with ⟨⟨e, he⟩, -⟩ | ⟨-, hc⟩
  · cases he
  · exact hc

theorem service_ended {l o : String} {x : Act α} {post : α → Act β} {S : Campus → Campus → Prop}
    (hx : Atomic x) (hok : ∀ c a c', x.exec c = (.ok a, c') → S c c')
    (hpost : ∀ a, Within .books (post a))
    (hraise : ∀ a, Raises (fun e => ∃ t, e = .panic t) (post a)) (c : Campus) :
    Ended S c ((instrumented l o x >>= post >>= fun _ => pure ()).exec c).1
      ((instrumented l o x >>= post >>= fun _ => pure ()).exec c).2 := by
  rw [exec_drop, exec_bind]
  rcases hi : (instrumented l o x).exec c with ⟨e | a, c₁⟩
  · obtain ⟨c₂, hx₂, hq⟩ := instrumented_error hi
    exact Or.inl ⟨⟨e, rfl⟩, Frame.quiet.trans (hx c e c₂ hx₂) hq⟩
  · obtain ⟨c₂, hx₂, hq⟩ := instrumented_ok hi
    dsimp only
    have hc : Frame.books.rel c₂ ((post a).exec c₁).2 :=
      Frame.books.trans (Frame.quiet_books hq) (hpost a c₁)
    rcases hp : (post a).exec c₁ with ⟨e | v, c₃⟩ <;> rw [hp] at hc
    · obtain ⟨t, rfl⟩ := hraise a c₁ e c₃ hp
      exact Or.inr ⟨Or.inr ⟨t, rfl⟩, c₂, hok c a c₂ hx₂, hc⟩
    · exact Or.inr ⟨Or.inl rfl, c₂, hok c a c₂ hx₂, hc⟩


theorem books_report (g : Metrics.Registry → Metrics.Registry) (ctx : Context) (e : Audit.Event)
    (a : α) : Within .books (do meter g; emit ctx e; pure a) :=
  within_report Frame.books_publishes g ctx e a

theorem report_raises_panic (g : Metrics.Registry → Metrics.Registry) (ctx : Context)
    (e : Audit.Event) (a : α) :
    Raises (fun f => ∃ t, f = .panic t) (do meter g; emit ctx e; pure a) :=
  raises_bind (raises_modify _) fun _ => raises_bind (emit_raises_panic ctx e) fun _ => raises_pure a

theorem step_drop_ok {x : StateT σ Act α} {b b' : σ} {c c' : Campus} {u : Unit} :
    ((x >>= fun _ => pure ()) b).exec c = (.ok (u, b'), c') ↔ ∃ a, (x b).exec c = (.ok (a, b'), c') := by
  rw [step_bind]
  rcases (x b).exec c with ⟨_ | ⟨a, b₁⟩, c₁⟩ <;> simp

end Act

namespace Staking

/-- The operations of the staking ledger, each with the request it serves. -/
inductive Op where
  | register (ctx : Context) (caller : AccountId)
  | launch (ctx : Context) (caller : AccountId) (asset : AssetId) (threshold : Nat)
  | stake (ctx : Context) (caller : AccountId) (deposit : Transfer)
  | withdraw (ctx : Context) (caller : AccountId) (amount : Nat)

def Op.act : Op → Act Unit
  | .register ctx caller => Staking.register ctx caller >>= fun _ => pure ()
  | .launch ctx caller asset threshold =>
    Staking.launch ctx caller asset threshold >>= fun _ => pure ()
  | .stake ctx caller deposit => Staking.stake ctx caller deposit >>= fun _ => pure ()
  | .withdraw ctx caller amount => Staking.withdraw ctx caller amount >>= fun _ => pure ()

/-- The transaction body of an operation, its result dropped. -/
def Op.body : Op → OnStaking Unit
  | .register ctx caller => Tx.register ctx caller >>= fun _ => pure ()
  | .launch _ caller asset threshold => Tx.launch caller asset threshold >>= fun _ => pure ()
  | .stake ctx caller deposit => Tx.stake ctx caller deposit >>= fun _ => pure ()
  | .withdraw ctx caller amount => Tx.withdraw ctx caller amount >>= fun _ => pure ()

/-- Running `body` as a transaction from `c` committed its draft, reaching `c'`. -/
def Commits (body : OnStaking Unit) (c c' : Campus) : Prop :=
  ∃ d c₁, (body c.staking).exec c = (.ok ((), d), c₁) ∧ c' = { c₁ with staking := d }

theorem atomic_body (k : Op) (b : Book) : Atomic (k.body b) := by
  cases k with
  | register ctx caller => exact atomic_step_bind_pure (atomic_registerTx ctx caller) _ b
  | launch _ caller asset threshold =>
    exact atomic_step_bind_pure (atomic_launchTx caller asset threshold) _ b
  | stake ctx caller d => exact atomic_step_bind_pure (atomic_stakeTx ctx caller d) _ b
  | withdraw ctx caller amount =>
    exact atomic_step_bind_pure (atomic_withdrawTx ctx caller amount) _ b

theorem stakingTx_commits {ctx : Context} {body : OnStaking α} {c c' : Campus} {a : α}
    (h : (stakingTx ctx body).exec c = (.ok a, c')) : Commits (body >>= fun _ => pure ()) c c' := by
  obtain ⟨d, c₁, hb, rfl⟩ := stakingTx_ok h
  exact ⟨d, c₁, step_drop_ok.mpr ⟨a, hb⟩, rfl⟩

/-- Every call of a staking operation either fails leaving the campus alone, or commits the
draft of its body and then publishes. -/
theorem Op.ended (k : Op) (c : Campus) :
    Ended (Commits k.body) c (k.act.exec c).1 (k.act.exec c).2 := by
  cases k with
  | register ctx caller =>
    unfold Op.act Staking.register
    dsimp only
    refine service_ended ?_ (fun c a c' h => ?_) (fun _ => books_report _ _ _ _)
      (fun _ => report_raises_panic _ _ _ _) c
    · split
      · exact atomic_bind (within_throw _) fun _ => atomic_stakingTx ctx (atomic_registerTx ctx caller)
      · exact atomic_stakingTx ctx (atomic_registerTx ctx caller)
    · split at h
      · simp at h
      · exact stakingTx_commits h
  | launch ctx caller asset threshold =>
    unfold Op.act Staking.launch
    exact service_ended (atomic_stakingTx ctx (atomic_launchTx caller asset threshold))
      (fun _ _ _ h => stakingTx_commits h)
      (fun _ => within_bind (books_emit _ _) fun _ => within_pure _)
      (fun _ => raises_bind (emit_raises_panic _ _) fun _ => raises_pure _) c
  | stake ctx caller d =>
    unfold Op.act Staking.stake
    exact service_ended (atomic_stakingTx ctx (atomic_stakeTx ctx caller d))
      (fun _ _ _ h => stakingTx_commits h) (fun _ => books_report _ _ _ _)
      (fun _ => report_raises_panic _ _ _ _) c
  | withdraw ctx caller amount =>
    unfold Op.act Staking.withdraw
    exact service_ended (atomic_stakingTx ctx (atomic_withdrawTx ctx caller amount))
      (fun _ _ _ h => stakingTx_commits h) (fun _ => books_report _ _ _ _)
      (fun _ => report_raises_panic _ _ _ _) c

/-- A staking body that succeeds leaves both ledgers' committed books alone and only issues
identifiers: it reaches the bank, if at all, to opt the escrow in or to pay out. -/
theorem Op.body_ledgers (k : Op) {b d : Book} {c c₁ : Campus}
    (h : (k.body b).exec c = (.ok ((), d), c₁)) : Frame.ledgers.rel c c₁ := by
  cases k with
  | register ctx caller =>
    obtain ⟨r, h⟩ := step_drop_ok.mp h
    obtain ⟨-, rfl, -⟩ := registerTx_ok h
    exact Frame.ledgers.refl _
  | launch _ caller asset threshold =>
    obtain ⟨r, h⟩ := step_drop_ok.mp h
    obtain ⟨-, -, -, -, bank, -, rfl⟩ := launchTx_ok h
    exact ⟨rfl, rfl, Nat.le_refl _⟩
  | stake ctx caller deposit =>
    obtain ⟨r, h⟩ := step_drop_ok.mp h
    obtain ⟨-, -, -, -, -, -, -, -, -, -, -, -, -, rfl, -⟩ := stakeTx_ok h
    exact Frame.ledgers.refl _
  | withdraw ctx caller amount =>
    obtain ⟨r, h⟩ := step_drop_ok.mp h
    obtain ⟨-, -, bank, -, -, -, -, -, -, -, rfl, -⟩ := withdrawTx_ok h
    exact ⟨rfl, rfl, Nat.le_succ _⟩

end Staking

namespace Reputation

/-- The operations of the reputation ledger, each with the request it serves. -/
inductive Op where
  | register (ctx : Context) (caller : AccountId)
  | launch (ctx : Context) (caller : AccountId) (weights : Scores)
  | update (ctx : Context) (caller account : AccountId) (delta : Scores)

def Op.act : Op → Act Unit
  | .register ctx caller => Reputation.register ctx caller >>= fun _ => pure ()
  | .launch ctx caller weights => Reputation.launch ctx caller weights >>= fun _ => pure ()
  | .update ctx caller account delta =>
    Reputation.updateScores ctx caller account delta >>= fun _ => pure ()

/-- The transaction body of an operation, its result dropped. -/
def Op.body : Op → OnReputation Unit
  | .register ctx caller => Tx.register ctx caller >>= fun _ => pure ()
  | .launch _ caller weights => Tx.launch caller weights >>= fun _ => pure ()
  | .update ctx caller account delta => Tx.update ctx caller account delta >>= fun _ => pure ()

/-- Running `body` as a transaction from `c` committed its draft, reaching `c'`. -/
def Commits (body : OnReputation Unit) (c c' : Campus) : Prop :=
  ∃ d c₁, (body c.reputation).exec c = (.ok ((), d), c₁) ∧ c' = { c₁ with reputation := d }

theorem atomic_body (k : Op) (b : Book) : Atomic (k.body b) := by
  cases k with
  | register ctx caller => exact atomic_step_bind_pure (atomic_registerTx ctx caller) _ b
  | launch _ caller weights => exact atomic_step_bind_pure (atomic_launchTx caller weights) _ b
  | update ctx caller account delta =>
    exact atomic_step_bind_pure (atomic_updateTx ctx caller account delta) _ b

theorem reputationTx_commits {ctx : Context} {body : OnReputation α} {c c' : Campus} {a : α}
    (h : (reputationTx ctx body).exec c = (.ok a, c')) :
    Commits (body >>= fun _ => pure ()) c c' := by
  obtain ⟨d, c₁, hb, rfl⟩ := reputationTx_ok h
  exact ⟨d, c₁, step_drop_ok.mpr ⟨a, hb⟩, rfl⟩

/-- Every call of a reputation operation either fails leaving the campus alone, or commits the
draft of its body and then publishes. -/
theorem Op.ended (k : Op) (c : Campus) :
    Ended (Commits k.body) c (k.act.exec c).1 (k.act.exec c).2 := by
  cases k with
  | register ctx caller =>
    unfold Op.act Reputation.register
    dsimp only
    refine service_ended ?_ (fun c a c' h => ?_) (fun _ => books_report _ _ _ _)
      (fun _ => report_raises_panic _ _ _ _) c
    · split
      · exact atomic_bind (within_throw _) fun _ =>
          atomic_reputationTx ctx (atomic_registerTx ctx caller)
      · exact atomic_reputationTx ctx (atomic_registerTx ctx caller)
    · split at h
      · simp at h
      · exact reputationTx_commits h
  | launch ctx caller weights =>
    unfold Op.act Reputation.launch
    exact service_ended (atomic_reputationTx ctx (atomic_launchTx caller weights))
      (fun _ _ _ h => reputationTx_commits h)
      (fun _ => within_bind (books_emit _ _) fun _ => within_pure _)
      (fun _ => raises_bind (emit_raises_panic _ _) fun _ => raises_pure _) c
  | update ctx caller account delta =>
    unfold Op.act Reputation.updateScores
    exact service_ended (atomic_reputationTx ctx (atomic_updateTx ctx caller account delta))
      (fun _ _ _ h => reputationTx_commits h)
      (fun _ => within_bind (books_emit _ _) fun _ => within_pure _)
      (fun _ => raises_bind (emit_raises_panic _ _) fun _ => raises_pure _) c

/-- A reputation body that succeeds leaves the campus itself as it was: all it wrote is its
draft. -/
theorem Op.body_campus (k : Op) {b d : Book} {c c₁ : Campus}
    (h : (k.body b).exec c = (.ok ((), d), c₁)) : c₁ = c := by
  cases k with
  | register ctx caller =>
    obtain ⟨r, h⟩ := step_drop_ok.mp h
    exact (registerTx_ok h).2.1
  | launch _ caller weights =>
    obtain ⟨r, h⟩ := step_drop_ok.mp h
    exact (launchTx_ok h).2.2.2
  | update ctx caller account delta =>
    obtain ⟨r, h⟩ := step_drop_ok.mp h
    obtain ⟨-, -, -, -, -, -, hc, -⟩ := updateTx_ok h
    exact hc

end Reputation

/-- The reads of the two ledgers, each with the request it serves. -/
inductive Read where
  | scores (ctx : Context) (account : AccountId)
  | composites (ctx : Context) (ids : List AccountId)
  | reputationConfig (ctx : Context)
  | stake (ctx : Context) (account : AccountId)
  | voteWeight (ctx : Context) (account : AccountId)
  | stakingConfig (ctx : Context)
  | reconcile (ctx : Context)

def Read.act : Read → Act Unit
  | .scores ctx account => Reputation.scoresOf ctx account >>= fun _ => pure ()
  | .composites ctx ids => Reputation.composites ctx ids >>= fun _ => pure ()
  | .reputationConfig ctx => Reputation.config ctx >>= fun _ => pure ()
  | .stake ctx account => Staking.stakeOf ctx account >>= fun _ => pure ()
  | .voteWeight ctx account => Staking.voteWeightOf ctx account >>= fun _ => pure ()
  | .stakingConfig ctx => Staking.config ctx >>= fun _ => pure ()
  | .reconcile ctx => Staking.reconcile ctx >>= fun _ => pure ()

/-- A read changes nothing the services own, whatever its outcome. -/
theorem Read.quiet (k : Read) : Within .quiet k.act := by
  cases k with
  | scores ctx account =>
    refine within_bind ?_ fun _ => within_pure _
    exact quiet_reputationView ctx (quiet_accountAccess (quiet_repFindAccount _))
  | composites ctx ids =>
    refine within_bind ?_ fun _ => within_pure _
    unfold Reputation.composites
    split
    · exact within_pure _
    · exact within_bind (quiet_reputationView ctx (quiet_internally (quiet_repFindAccounts _)))
        fun _ => within_pure _
  | reputationConfig ctx =>
    exact within_bind (quiet_reputationView ctx (quiet_internally quiet_repLoadConfig))
      fun _ => within_pure _
  | stake ctx account =>
    refine within_bind ?_ fun _ => within_pure _
    exact quiet_stakingView ctx
      (within_step_bind (quiet_accountAccess (quiet_stakeFindAccount _)) fun _ _ => within_pure _)
  | voteWeight ctx account =>
    refine within_bind ?_ fun _ => within_pure _
    refine quiet_stakingView ctx (within_step_bind (quiet_internally quiet_stakeLoadConfig) ?_)
    exact fun _ => within_step_bind (quiet_accountAccess (quiet_stakeFindAccount _))
      fun _ _ => within_pure _
  | stakingConfig ctx =>
    exact within_bind (quiet_stakingView ctx (quiet_internally quiet_stakeLoadConfig))
      fun _ => within_pure _
  | reconcile ctx =>
    refine within_bind ?_ fun _ => within_pure _
    unfold Staking.reconcile
    refine within_bind (quiet_stakingView ctx (within_step_bind (quiet_internally quiet_stakeLoadConfig)
      fun _ => within_step_bind (quiet_check _) fun _ => ?_)) fun _ =>
        within_bind (quiet_meter _) fun _ => within_pure _
    exact within_step_bind (quiet_assetAccess (within_lift (quiet_balance _ _))) fun _ _ =>
      within_pure _

/-- The bank's own acts, made directly by a client. -/
inductive BankCall where
  | mint (asset : AssetId) (issuer : AccountId) (supply : Nat)
  | optIn (asset : AssetId) (holder : AccountId)
  | transfer (asset : AssetId) (source target : AccountId) (amount : Nat)
  | settled (t : Transfer)
  | balance (asset : AssetId) (holder : AccountId)

def BankCall.act : BankCall → Act Unit
  | .mint asset issuer supply => Act.mint asset issuer supply
  | .optIn asset holder => Act.optIn asset holder
  | .transfer asset source target amount =>
    Act.transfer asset source target amount >>= fun _ => pure ()
  | .settled t => Act.settled t >>= fun _ => pure ()
  | .balance asset holder => Act.balance asset holder >>= fun _ => pure ()

/-- A bank call leaves both ledgers' books alone. -/
theorem BankCall.ledgers (k : BankCall) : Within .ledgers k.act := by
  cases k with
  | mint asset issuer supply => exact ledgers_mint asset issuer supply
  | optIn asset holder => exact ledgers_optIn asset holder
  | transfer asset source target amount =>
    exact within_bind (ledgers_transfer asset source target amount) fun _ => within_pure _
  | settled t => exact ledgers_of_quiet (within_bind (quiet_settled t) fun _ => within_pure _)
  | balance asset holder =>
    exact ledgers_of_quiet (within_bind (quiet_balance asset holder) fun _ => within_pure _)

inductive Call where
  | staking (k : Staking.Op)
  | reputation (k : Reputation.Op)
  | read (k : Read)
  | bank (k : BankCall)

def Call.act : Call → Act Unit
  | .staking k => k.act
  | .reputation k => k.act
  | .read k => k.act
  | .bank k => k.act

/-- The campus after a call, whatever its outcome. -/
def Call.next (k : Call) (c : Campus) : Campus := (k.act.exec c).2

/-- The campus after a run of calls, made one after another. -/
def Campus.after (c : Campus) (calls : List Call) : Campus :=
  calls.foldl (fun c (k : Call) => k.next c) c

@[simp] theorem Campus.after_nil (c : Campus) : c.after [] = c := rfl

@[simp] theorem Campus.after_cons (c : Campus) (k : Call) (calls : List Call) :
    c.after (k :: calls) = (k.next c).after calls := rfl

/-- A property that every call preserves holds after every run. -/
theorem Campus.after_induction (P : Campus → Prop) (hstep : ∀ (k : Call) c, P c → P (k.next c))
    {c : Campus} (hc : P c) (calls : List Call) : P (c.after calls) := by
  induction calls generalizing c with
  | nil => exact hc
  | cons k calls ih => exact ih (hstep k c hc)

/-- The staking books change only by a staking operation that commits the draft of its body. -/
theorem Call.staking_next (k : Call) (c : Campus) :
    (k.next c).staking = c.staking ∨ ∃ (o : Staking.Op) (d : Staking.Book) (c₁ : Campus), k = .staking o ∧
      (o.body c.staking).exec c = (.ok ((), d), c₁) ∧ (k.next c).staking = d := by
  cases k with
  | staking o =>
    rcases o.ended c with ⟨-, hq⟩ | ⟨-, c₁, ⟨d, c₂, hb, rfl⟩, hc⟩
    · exact Or.inl (Frame.quiet_books hq).2.1
    · exact Or.inr ⟨o, d, c₂, rfl, hb, hc.2.1⟩
  | reputation o =>
    left
    rcases o.ended c with ⟨-, hq⟩ | ⟨-, c₁, ⟨d, c₂, hb, rfl⟩, hc⟩
    · exact (Frame.quiet_books hq).2.1
    · rw [Reputation.Op.body_campus o hb] at hc
      exact hc.2.1
  | read o => exact Or.inl (Frame.quiet_books (o.quiet c)).2.1
  | bank o => exact Or.inl (o.ledgers c).2.1

/-- The reputation books change only by a reputation operation that commits the draft of its
body. -/
theorem Call.reputation_next (k : Call) (c : Campus) :
    (k.next c).reputation = c.reputation ∨ ∃ (o : Reputation.Op) (d : Reputation.Book) (c₁ : Campus),
      k = .reputation o ∧
      (o.body c.reputation).exec c = (.ok ((), d), c₁) ∧ (k.next c).reputation = d := by
  cases k with
  | staking o =>
    left
    rcases o.ended c with ⟨-, hq⟩ | ⟨-, c₁, ⟨d, c₂, hb, rfl⟩, hc⟩
    · exact (Frame.quiet_books hq).1
    · exact hc.1.trans (Staking.Op.body_ledgers o hb).1
  | reputation o =>
    rcases o.ended c with ⟨-, hq⟩ | ⟨-, c₁, ⟨d, c₂, hb, rfl⟩, hc⟩
    · exact Or.inl (Frame.quiet_books hq).1
    · exact Or.inr ⟨o, d, c₂, rfl, hb, hc.1⟩
  | read o => exact Or.inl (Frame.quiet_books (o.quiet c)).1
  | bank o => exact Or.inl (o.ledgers c).1

end CampusLedger
