import CampusLedger.Proofs.Interleaving
/-!
# Concurrent calls publish in the order they publish

Every mutating call of either ledger commits its transaction under the ledger's write lock and
publishes afterwards: `Staking.Op.commit` and `Reputation.Op.commit`, each followed by
`Posting.publish`, make up the call itself (`act_eq_commit`). Run concurrently, the calls
interleave at the release of the lock.

Every interleaving leaves each of the ledgers' totals at the value posted by the last commit to
set it. Through an open audit queue, synchronous or asynchronous, it lodges the events in the
order the publishing steps ran: stored at once, or, while the queue is held, waiting in that
order until it is full, the rest dropped (`interleavings_publish_in_publishing_order`). A serial
interleaving publishes in commit order, so there the events follow the commits and every gauge
was last passed its committed total. Two stakes that commit one after the other and publish the
other way round, through the asynchronous queue the server runs, store the second stake's event
first and leave the gauge at the first stake's total, below the committed one
(`stakes_published_against_commit_order`).
-/

namespace CampusLedger

open Act

def stakedGauge : String := "ccms_staking_total_staked"

def stakingUsersGauge : String := "ccms_staking_total_users"

def reputationUsersGauge : String := "ccms_reputation_total_users"

variable {c c' : Campus} {p : Posting}

/-- A commit that hands over a posting ran its transaction to success; counting the outcome
changes nothing the services own. -/
theorem handOver_ok {α : Type} {l o : String} {x : Act α} {f : α → Act Posting}
    (h : (instrumented l o x >>= f).exec c = (.ok p, c')) :
    ∃ a c₁ c₂, x.exec c = (.ok a, c₁) ∧ Frame.books.rel c₁ c₂ ∧ (f a).exec c₂ = (.ok p, c') := by
  obtain ⟨a, c₂, h₁, h₂⟩ := exec_bind_ok.mp h
  obtain ⟨c₁, hx, hq⟩ := instrumented_ok h₁
  exact ⟨a, c₁, c₂, hx, Frame.quiet_books hq, h₂⟩

/-- A commit whose transaction is atomic and whose hand-over cannot fail changes nothing the
services own when it fails. -/
theorem handOver_error {α : Type} {l o : String} {x : Act α} {f : α → Act Posting} {e : Failure}
    (hx : Atomic x) (hf : ∀ a c, ((f a).exec c).1.toBool = true)
    (h : (instrumented l o x >>= f).exec c = (.error e, c')) : Frame.books.rel c c' := by
  rcases exec_bind_error.mp h with h | ⟨a, c₁, -, h₂⟩
  · obtain ⟨c₁, hx₁, hq⟩ := instrumented_error h
    exact Frame.quiet_books (Frame.quiet.trans (hx c e c₁ hx₁) hq)
  · have := hf a c₁
    rw [h₂] at this
    cases this

namespace Staking

/-- A staking call up to the release of the write lock: its transaction, counted as an
operation of the ledger, handing over what the call publishes. -/
def Op.commit : Op → Act Posting
  | .register ctx caller => do
    let (_, users) ← instrumented "staking" "register" do
      if caller.isZero then throw (.make .invalidInput "caller is required")
      stakingTx ctx (Tx.register ctx caller)
    pure { ctx, event := { ledger := .staking, action := "account_registered", account := caller },
           gauge := some (stakingUsersGauge, users) }
  | .launch ctx caller asset threshold => do
    let _ ← instrumented "staking" "initialize" (stakingTx ctx (Tx.launch caller asset threshold))
    pure { ctx, event := { ledger := .staking, action := "ledger_initialized", actor := caller,
                           value := threshold } }
  | .stake ctx caller deposit => do
    let (balance, total) ← instrumented "staking" "stake"
      (stakingTx ctx (Tx.stake ctx caller deposit))
    pure { ctx, event := { ledger := .staking, action := "staked", account := caller,
                           amount := deposit.amount, value := balance },
           gauge := some (stakedGauge, total), moved := some ("in", deposit.amount) }
  | .withdraw ctx caller amount => do
    let (balance, total) ← instrumented "staking" "withdraw"
      (stakingTx ctx (Tx.withdraw ctx caller amount))
    pure { ctx, event := { ledger := .staking, action := "withdrawn", account := caller, amount,
                           value := balance },
           gauge := some (stakedGauge, total), moved := some ("out", amount) }

/-- A staking call is its commit followed by the publishing step of what the commit handed
over. -/
theorem Op.act_eq_commit (k : Op) : k.act = k.commit >>= Posting.publish := by
  cases k with
  | register ctx caller =>
    simp only [Op.act, Op.commit, Staking.register, bind_assoc, pure_bind]
    congr 1
    funext x
    simp only [Posting.publish, Posting.metering, Option.isSome_some, if_true, bind_pure_unit]
    rfl
  | launch ctx caller asset threshold =>
    simp only [Op.act, Op.commit, Staking.launch, bind_assoc, pure_bind]
    congr 1
    funext x
    simp [Posting.publish, Posting.metering]
  | stake ctx caller deposit =>
    simp only [Op.act, Op.commit, Staking.stake, bind_assoc, pure_bind]
    congr 1
    funext x
    simp only [Posting.publish, Posting.metering, Option.isSome_some, if_true, bind_pure_unit]
    rfl
  | withdraw ctx caller amount =>
    simp only [Op.act, Op.commit, Staking.withdraw, bind_assoc, pure_bind]
    congr 1
    funext x
    simp only [Posting.publish, Posting.metering, Option.isSome_some, if_true, bind_pure_unit]
    rfl

theorem Op.within_commit {F : Frame} (hF : F.Steps) (k : Op) : Within F k.commit := by
  cases k with
  | register ctx caller =>
    refine within_bind (within_instrumented hF.toPasses ?_) fun _ => within_pure _
    split
    · exact within_bind (within_throw _) fun _ =>
        within_stakingTx hF ctx (within_registerTx hF ctx caller)
    · exact within_stakingTx hF ctx (within_registerTx hF ctx caller)
  | launch ctx caller asset threshold =>
    exact within_bind (within_instrumented hF.toPasses
      (within_stakingTx hF ctx (within_launchTx hF caller asset threshold))) fun _ => within_pure _
  | stake ctx caller d =>
    exact within_bind (within_instrumented hF.toPasses
      (within_stakingTx hF ctx (within_stakeTx hF ctx caller d))) fun _ => within_pure _
  | withdraw ctx caller amount =>
    exact within_bind (within_instrumented hF.toPasses
      (within_stakingTx hF ctx (within_withdrawTx hF ctx caller amount))) fun _ => within_pure _

theorem Op.commit_keepsAudit (k : Op) : Within Frame.audit k.commit :=
  k.within_commit Frame.audit_steps

/-- A staking commit that fails changes no book. -/
theorem Op.commit_error (k : Op) {e : Failure} (h : k.commit.exec c = (.error e, c')) :
    Frame.books.rel c c' := by
  cases k with
  | register ctx caller =>
    refine handOver_error ?_ (fun _ _ => rfl) h
    split
    · exact atomic_bind (within_throw _) fun _ => atomic_stakingTx ctx (atomic_registerTx ctx caller)
    · exact atomic_stakingTx ctx (atomic_registerTx ctx caller)
  | launch ctx caller asset threshold =>
    exact handOver_error (atomic_stakingTx ctx (atomic_launchTx caller asset threshold))
      (fun _ _ => rfl) h
  | stake ctx caller d =>
    exact handOver_error (atomic_stakingTx ctx (atomic_stakeTx ctx caller d))
      (fun _ _ => rfl) h
  | withdraw ctx caller amount =>
    exact handOver_error (atomic_stakingTx ctx (atomic_withdrawTx ctx caller amount))
      (fun _ _ => rfl) h

/-- What a staking commit that hands over a posting did to the totals: the total staked is the
value posted to its gauge, the accounts' count the value posted to theirs, each as it was when
the posting sets no such gauge, and the reputation books stay. -/
theorem Op.commit_ok (k : Op) (h : k.commit.exec c = (.ok p, c')) :
    c'.reputation = c.reputation ∧
      c'.staking.loadConfig.totalStaked =
        (p.value stakedGauge).getD c.staking.loadConfig.totalStaked ∧
      c'.staking.loadConfig.totalUsers =
        (p.value stakingUsersGauge).getD c.staking.loadConfig.totalUsers ∧
      p.value reputationUsersGauge = none := by
  cases k with
  | register ctx caller =>
    obtain ⟨⟨acct, users⟩, c₁, c₂, hx, hb, hf⟩ := handOver_ok h
    simp only [exec_pure, Prod.mk.injEq, Except.ok.injEq] at hf
    obtain ⟨rfl, rfl⟩ := hf
    cases hz : caller.isZero
    · simp only [hz, Bool.false_eq_true, ↓reduceIte] at hx
      obtain ⟨d, c₃, hbody, rfl⟩ := stakingTx_ok hx
      obtain ⟨hcreate, rfl, hr⟩ := registerTx_ok hbody
      obtain ⟨reg, -, rfl⟩ := Book.createAccount_ok hcreate
      simp only [Prod.mk.injEq] at hr
      obtain ⟨-, rfl⟩ := hr
      refine ⟨hb.1, ?_, ?_, ?_⟩ <;>
        simp [Posting.value, stakedGauge, stakingUsersGauge, reputationUsersGauge, hb.2.1]
    · simp [hz] at hx
  | launch ctx caller asset threshold =>
    obtain ⟨cfg, c₁, c₂, hx, hb, hf⟩ := handOver_ok h
    simp only [exec_pure, Prod.mk.injEq, Except.ok.injEq] at hf
    obtain ⟨rfl, rfl⟩ := hf
    obtain ⟨d, c₃, hbody, rfl⟩ := stakingTx_ok hx
    obtain ⟨-, -, rfl, hsave, bank, -, rfl⟩ := launchTx_ok hbody
    obtain rfl := Book.saveConfig_ok hsave
    refine ⟨hb.1, ?_, ?_, rfl⟩ <;> simp [Posting.value, hb.2.1, Book.loadConfig]
  | stake ctx caller d =>
    obtain ⟨⟨balance, total⟩, c₁, c₂, hx, hb, hf⟩ := handOver_ok h
    simp only [exec_pure, Prod.mk.injEq, Except.ok.injEq] at hf
    obtain ⟨rfl, rfl⟩ := hf
    obtain ⟨b', c₃, hbody, rfl⟩ := stakingTx_ok hx
    obtain ⟨a, a', cfg', b₂, b₃, -, -, -, -, hrec, -, hsave, hconf, rfl, hr⟩ := stakeTx_ok hbody
    obtain ⟨-, rfl⟩ := Book.recordDeposit_ok hrec
    obtain ⟨r, hput, rfl⟩ := Book.saveAccount_ok hsave
    obtain rfl := Book.saveConfig_ok hconf
    simp only [Prod.mk.injEq] at hr
    obtain ⟨-, rfl⟩ := hr
    -- a saved record replaces one, so the count of accounts stays
    have htotal := (Ledger.Registry.put_ok hput).2.2
    refine ⟨hb.1, ?_, ?_, ?_⟩ <;>
      simp [Posting.value, stakedGauge, stakingUsersGauge, reputationUsersGauge, hb.2.1,
        Book.loadConfig, htotal]
  | withdraw ctx caller amount =>
    obtain ⟨⟨balance, total⟩, c₁, c₂, hx, hb, hf⟩ := handOver_ok h
    simp only [exec_pure, Prod.mk.injEq, Except.ok.injEq] at hf
    obtain ⟨rfl, rfl⟩ := hf
    obtain ⟨b', c₃, hbody, rfl⟩ := stakingTx_ok hx
    obtain ⟨a, b₁, bank, t, -, -, -, hsave, hconf, -, rfl, hr⟩ := withdrawTx_ok hbody
    obtain ⟨r, hput, rfl⟩ := Book.saveAccount_ok hsave
    obtain rfl := Book.saveConfig_ok hconf
    simp only [Prod.mk.injEq] at hr
    obtain ⟨-, rfl⟩ := hr
    have htotal := (Ledger.Registry.put_ok hput).2.2
    refine ⟨hb.1, ?_, ?_, ?_⟩ <;>
      simp [Posting.value, stakedGauge, stakingUsersGauge, reputationUsersGauge, hb.2.1,
        Book.loadConfig, htotal]

end Staking

namespace Reputation

/-- A reputation call up to the release of the write lock: its transaction, counted as an
operation of the ledger, handing over what the call publishes. -/
def Op.commit : Op → Act Posting
  | .register ctx caller => do
    let (_, users) ← instrumented "reputation" "register" do
      if caller.isZero then throw (.make .invalidInput "caller is required")
      reputationTx ctx (Tx.register ctx caller)
    pure { ctx, event := { ledger := .reputation, action := "account_registered",
                           account := caller },
           gauge := some (reputationUsersGauge, users) }
  | .launch ctx caller weights => do
    let _ ← instrumented "reputation" "initialize" (reputationTx ctx (Tx.launch caller weights))
    pure { ctx, event := { ledger := .reputation, action := "ledger_initialized", actor := caller } }
  | .update ctx caller account delta => do
    let composite ← instrumented "reputation" "update_scores"
      (reputationTx ctx (Tx.update ctx caller account delta))
    pure { ctx, event := { ledger := .reputation, action := "scores_updated", account,
                           actor := caller, value := composite } }

/-- A reputation call is its commit followed by the publishing step of what the commit handed
over. -/
theorem Op.act_eq_commit (k : Op) : k.act = k.commit >>= Posting.publish := by
  cases k with
  | register ctx caller =>
    simp only [Op.act, Op.commit, Reputation.register, bind_assoc, pure_bind]
    congr 1
    funext x
    simp only [Posting.publish, Posting.metering, Option.isSome_some, if_true, bind_pure_unit]
    rfl
  | launch ctx caller weights =>
    simp only [Op.act, Op.commit, Reputation.launch, bind_assoc, pure_bind]
    congr 1
    funext x
    simp [Posting.publish, Posting.metering]
  | update ctx caller account delta =>
    simp only [Op.act, Op.commit, Reputation.updateScores, bind_assoc, pure_bind]
    congr 1
    funext x
    simp [Posting.publish, Posting.metering]

theorem Op.within_commit {F : Frame} (hF : F.Steps) (k : Op) : Within F k.commit := by
  cases k with
  | register ctx caller =>
    refine within_bind (within_instrumented hF.toPasses ?_) fun _ => within_pure _
    split
    · exact within_bind (within_throw _) fun _ =>
        within_reputationTx hF ctx (within_registerTx hF ctx caller)
    · exact within_reputationTx hF ctx (within_registerTx hF ctx caller)
  | launch ctx caller weights =>
    exact within_bind (within_instrumented hF.toPasses
      (within_reputationTx hF ctx (within_launchTx hF caller weights))) fun _ => within_pure _
  | update ctx caller account delta =>
    exact within_bind (within_instrumented hF.toPasses
      (within_reputationTx hF ctx (within_updateTx hF ctx caller account delta)))
      fun _ => within_pure _

theorem Op.commit_keepsAudit (k : Op) : Within Frame.audit k.commit :=
  k.within_commit Frame.audit_steps

/-- A reputation commit that fails changes no book. -/
theorem Op.commit_error (k : Op) {e : Failure} (h : k.commit.exec c = (.error e, c')) :
    Frame.books.rel c c' := by
  cases k with
  | register ctx caller =>
    refine handOver_error ?_ (fun _ _ => rfl) h
    split
    · exact atomic_bind (within_throw _) fun _ =>
        atomic_reputationTx ctx (atomic_registerTx ctx caller)
    · exact atomic_reputationTx ctx (atomic_registerTx ctx caller)
  | launch ctx caller weights =>
    exact handOver_error (atomic_reputationTx ctx (atomic_launchTx caller weights))
      (fun _ _ => rfl) h
  | update ctx caller account delta =>
    exact handOver_error (atomic_reputationTx ctx (atomic_updateTx ctx caller account delta))
      (fun _ _ => rfl) h

/-- What a reputation commit that hands over a posting did: the accounts' count is the value
posted to its gauge, or as it was when the posting sets none, no staking gauge is posted, and
the staking books stay. -/
theorem Op.commit_ok (k : Op) (h : k.commit.exec c = (.ok p, c')) :
    c'.staking = c.staking ∧
      c'.reputation.loadConfig.totalUsers =
        (p.value reputationUsersGauge).getD c.reputation.loadConfig.totalUsers ∧
      p.value stakedGauge = none ∧ p.value stakingUsersGauge = none := by
  cases k with
  | register ctx caller =>
    obtain ⟨⟨acct, users⟩, c₁, c₂, hx, hb, hf⟩ := handOver_ok h
    simp only [exec_pure, Prod.mk.injEq, Except.ok.injEq] at hf
    obtain ⟨rfl, rfl⟩ := hf
    cases hz : caller.isZero
    · simp only [hz, Bool.false_eq_true, ↓reduceIte] at hx
      obtain ⟨d, c₃, hbody, rfl⟩ := reputationTx_ok hx
      obtain ⟨hcreate, rfl, hr⟩ := registerTx_ok hbody
      simp only [Prod.mk.injEq] at hr
      obtain ⟨-, rfl⟩ := hr
      refine ⟨hb.2.1, ?_, ?_, ?_⟩ <;>
        simp [Posting.value, stakedGauge, stakingUsersGauge, reputationUsersGauge, hb.1]
    · simp [hz] at hx
  | launch ctx caller weights =>
    obtain ⟨cfg, c₁, c₂, hx, hb, hf⟩ := handOver_ok h
    simp only [exec_pure, Prod.mk.injEq, Except.ok.injEq] at hf
    obtain ⟨rfl, rfl⟩ := hf
    obtain ⟨d, c₃, hbody, rfl⟩ := reputationTx_ok hx
    obtain ⟨-, rfl, hsave, rfl⟩ := launchTx_ok hbody
    obtain rfl := Book.saveConfig_ok hsave
    refine ⟨hb.2.1, ?_, rfl, rfl⟩
    simp [Posting.value, hb.1, Book.loadConfig]
  | update ctx caller account delta =>
    obtain ⟨composite, c₁, c₂, hx, hb, hf⟩ := handOver_ok h
    simp only [exec_pure, Prod.mk.injEq, Except.ok.injEq] at hf
    obtain ⟨rfl, rfl⟩ := hf
    obtain ⟨d, c₃, hbody, rfl⟩ := reputationTx_ok hx
    obtain ⟨a, a', -, -, -, hsave, rfl, -⟩ := updateTx_ok hbody
    obtain ⟨r, hput, rfl⟩ := Book.saveAccount_ok hsave
    -- a saved record replaces one, so the count of accounts stays
    have htotal := (Ledger.Registry.put_ok hput).2.2
    refine ⟨hb.2.1, ?_, rfl, rfl⟩
    simp [Posting.value, hb.1, Book.loadConfig, htotal]

end Reputation

inductive Mutation where
  | staking (k : Staking.Op)
  | reputation (k : Reputation.Op)

/-- A total of the ledgers that a gauge stands for, as the books report it. -/
structure Total where
  gauge : String
  figure : Campus → Nat

/-- The total staked, and each ledger's count of accounts. -/
def totals : List Total :=
  [⟨stakedGauge, fun c => c.staking.loadConfig.totalStaked⟩,
    ⟨stakingUsersGauge, fun c => c.staking.loadConfig.totalUsers⟩,
    ⟨reputationUsersGauge, fun c => c.reputation.loadConfig.totalUsers⟩]

theorem Total.figure_of_books {t : Total} (ht : t ∈ totals) (h : Frame.books.rel c c') :
    t.figure c' = t.figure c := by
  simp only [totals, List.mem_cons, List.not_mem_nil, or_false] at ht
  rcases ht with rfl | rfl | rfl <;> simp [h.1, h.2.1]

namespace Mutation

/-- The call's part under the write lock. -/
def commit : Mutation → Act Posting
  | .staking k => k.commit
  | .reputation k => k.commit

def act : Mutation → Act Unit
  | .staking k => k.act
  | .reputation k => k.act

theorem act_eq_commit (m : Mutation) : m.act = m.commit >>= Posting.publish := by
  cases m with
  | staking k => exact k.act_eq_commit
  | reputation k => exact k.act_eq_commit

theorem commit_keepsAudit (m : Mutation) : Within Frame.audit m.commit := by
  cases m with
  | staking k => exact k.commit_keepsAudit
  | reputation k => exact k.commit_keepsAudit

/-- Each total is, after a commit, the value its posting passes to the total's gauge, or as it
was when the posting sets no such gauge or the commit failed. -/
theorem commit_tallies (m : Mutation) {t : Total} (ht : t ∈ totals) :
    Interleaving.Tallies t.figure t.gauge m.commit := by
  intro c
  refine ⟨fun p c' h => ?_, fun e c' h => ?_⟩
  · simp only [totals, List.mem_cons, List.not_mem_nil, or_false] at ht
    cases m with
    | staking k =>
      obtain ⟨hr, hstaked, husers, hrep⟩ := k.commit_ok h
      rcases ht with rfl | rfl | rfl
      · exact hstaked
      · exact husers
      · simp [hr, hrep]
    | reputation k =>
      obtain ⟨hs, husers, hstaked, hsusers⟩ := k.commit_ok h
      rcases ht with rfl | rfl | rfl
      · simp [hs, hstaked]
      · simp [hs, hsusers]
      · exact husers
  · cases m with
    | staking k => exact Total.figure_of_books ht (k.commit_error h)
    | reputation k => exact Total.figure_of_books ht (k.commit_error h)

/-- Concurrent mutating calls on a campus, moved as the schedule says. -/
def interleave (c : Campus) (ms : List Mutation) (schedule : List Nat) : Interleaving :=
  (Interleaving.start c (ms.map commit)).run schedule

end Mutation

namespace Interleaving

theorem start_pending {calls : List (Act Posting)} {i : Nat} {k : Act Posting}
    (h : (start c calls).phase i = .pending k) : k ∈ calls := by
  simp only [start] at h
  cases hi : calls[i]? with
  | none => simp [hi] at h
  | some k' =>
    simp only [hi, Option.map_some, Option.getD_some, Phase.pending.injEq] at h
    subst h
    exact List.mem_of_getElem? hi

theorem start_pending_iff {calls : List (Act Posting)} {i : Nat} :
    (∃ k, (start c calls).phase i = .pending k) ↔ i < calls.length := by
  simp only [start]
  constructor
  · rintro ⟨k, hk⟩
    cases hi : calls[i]? with
    | none => simp [hi] at hk
    | some k' => exact (List.getElem?_eq_some_iff.mp hi).1
  · intro hi
    exact ⟨calls[i], by simp [List.getElem?_eq_getElem hi]⟩

/-- Each total is the value posted by the last commit to set it, or its value on `c`. -/
def TotalsPosted (c : Campus) (s : Interleaving) : Prop :=
  ∀ t ∈ totals, t.figure s.campus = (lastValue t.gauge (s.commits.map Prod.snd)).getD (t.figure c)

/-- Each gauge was last passed the total the books hold, if it was passed one at all. -/
def GaugesCurrent (s : Interleaving) : Prop :=
  ∀ t ∈ totals, ∀ x, lastValue t.gauge (s.publishes.map Prod.snd) = some x → t.figure s.campus = x

/-- When the calls publish in the order they committed, each gauge was last passed its
committed total. -/
theorem TotalsPosted.gaugesCurrent (h : TotalsPosted c s) (hs : s.publishes = s.commits) :
    s.GaugesCurrent := by
  intro t ht x hx
  rw [h t ht, ← hs, hx]
  rfl

end Interleaving

/-- Every interleaving of concurrent mutating calls of the ledgers leaves each total at the value
posted by the last commit to set it. Through an open audit queue it lodges the calls' events in
the order their publishing steps ran; when the calls publish in commit order, as every serial
schedule has them do, each gauge was last passed its committed total and, through an open
queue, the events are lodged in commit order. -/
theorem interleavings_publish_in_publishing_order (c : Campus) (ms : List Mutation)
    (schedule : List Nat) :
    let s := Mutation.interleave c ms schedule
    s.TotalsPosted c ∧ (c.OpenAudit → Lodged c s.campus s.published) ∧
      (s.publishes = s.commits → s.GaugesCurrent ∧ (c.OpenAudit → Lodged c s.campus s.committed)) ∧
      ∀ order : List Nat, order.Nodup → (∀ i ∈ order, i < ms.length) →
        schedule = Interleaving.serial order → s.publishes = s.commits := by
  intro s
  have hstart := fun {i k} (h : (Interleaving.start c (ms.map Mutation.commit)).phase i = .pending k) =>
    Interleaving.start_pending h
  -- each total is carried move by move from the start, whatever the queue does
  have htotals : s.TotalsPosted c := by
    intro t ht
    refine (Interleaving.Tallied.run (fun p c => Total.figure_of_books ht (p.books_publish c))
      ⟨fun i k hk => ?_, by simp [Interleaving.start, lastValue]⟩ schedule).figure
    obtain ⟨m, -, rfl⟩ := List.mem_map.mp (hstart hk)
    exact m.commit_tallies ht
  -- and so is what the queue has lodged, while it is open
  have hlodged : c.OpenAudit → Lodged c s.campus s.published := by
    intro hc
    refine (Interleaving.Lodges.run ⟨hc, fun i k hk => ?_, ?_⟩ schedule).lodged
    · obtain ⟨m, -, rfl⟩ := List.mem_map.mp (hstart hk)
      exact m.commit_keepsAudit
    · exact Lodged.of_audit (Frame.audit.refl c)
  refine ⟨htotals, hlodged, fun hs => ⟨htotals.gaugesCurrent hs, fun hc => ?_⟩,
    fun order hnodup hlt hsched => ?_⟩
  · have h := hlodged hc
    rwa [Interleaving.published, hs] at h
  · rw [show s = (Interleaving.start c (ms.map Mutation.commit)).run schedule from rfl, hsched]
    refine Interleaving.serial_publishes hnodup (fun i hi => ?_) rfl
    exact Interleaving.start_pending_iff.mpr (by simpa using hlt i hi)

theorem registration_published_in_turn :
    let c := Campus.fresh { auditBuffer := 4 } 0
    let ms := [Mutation.staking (.register { now := ⟨0⟩ } ⟨"ann"⟩)]
    let s := Mutation.interleave c ms [0, 0]
    c.OpenAudit ∧ s.TotalsPosted c ∧ (c.OpenAudit → Lodged c s.campus s.published) ∧
      (s.publishes = s.commits → s.GaugesCurrent ∧ (c.OpenAudit → Lodged c s.campus s.committed)) ∧
      ∀ order : List Nat, order.Nodup → (∀ i ∈ order, i < ms.length) →
        [0, 0] = Interleaving.serial order → s.publishes = s.commits :=
  ⟨⟨rfl, rfl, by decide +kernel⟩, interleavings_publish_in_publishing_order _ _ _⟩

/-- Two stakes of one account that commit first the one and then the other, and publish the
other way round, through the asynchronous audit queue the server runs: the journal holds the
second stake's event before the first's, and the gauge of the total staked was last passed the
first stake's total, 5, while the books hold 12. -/
theorem stakes_published_against_commit_order :
    let c := (Campus.fresh { auditBuffer := 4 } 0).after [.bank (.mint ⟨7⟩ ⟨"alice"⟩ 100),
      .staking (.launch { now := ⟨0⟩ } ⟨"controller"⟩ ⟨7⟩ 10),
      .staking (.register { now := ⟨0⟩ } ⟨"alice"⟩),
      .bank (.transfer ⟨7⟩ ⟨"alice"⟩ ⟨"escrow"⟩ 5), .bank (.transfer ⟨7⟩ ⟨"alice"⟩ ⟨"escrow"⟩ 7)]
    let first : Transfer :=
      { id := Uuid.numbered 3, asset := ⟨7⟩, source := ⟨"alice"⟩, target := ⟨"escrow"⟩, amount := 5 }
    let second : Transfer :=
      { id := Uuid.numbered 4, asset := ⟨7⟩, source := ⟨"alice"⟩, target := ⟨"escrow"⟩, amount := 7 }
    let s := Mutation.interleave c
      [.staking (.stake { now := ⟨0⟩ } ⟨"alice"⟩ first),
        .staking (.stake { now := ⟨0⟩ } ⟨"alice"⟩ second)] [0, 1, 1, 0]
    c.OpenAudit ∧ c.outbox.capacity = 4 ∧ c.outbox.holding = false ∧
      s.commits.map Prod.fst = [0, 1] ∧ s.publishes.map Prod.fst = [1, 0] ∧
      s.campus.journal.records.drop c.journal.records.length =
        [{ ledger := .staking, action := "staked", account := ⟨"alice"⟩, amount := 7, value := 12 },
          { ledger := .staking, action := "staked", account := ⟨"alice"⟩, amount := 5, value := 5 }] ∧
      lastValue stakedGauge (s.publishes.map Prod.snd) = some 5 ∧
      s.campus.staking.loadConfig.totalStaked = 12 ∧
      ¬ s.GaugesCurrent ∧ ¬ Lodged c s.campus s.committed := by
  intro c first second s
  have hopen : c.OpenAudit := ⟨by decide +kernel, by decide +kernel, by decide +kernel⟩
  have hhold : c.outbox.holding = false := by decide +kernel
  have hjournal : s.campus.journal.records.drop c.journal.records.length =
      [{ ledger := .staking, action := "staked", account := ⟨"alice"⟩, amount := 7, value := 12 },
        { ledger := .staking, action := "staked", account := ⟨"alice"⟩, amount := 5, value := 5 }] := by
    decide +kernel
  have hcommitted : s.committed =
      [{ ledger := .staking, action := "staked", account := ⟨"alice"⟩, amount := 5, value := 5 },
        { ledger := .staking, action := "staked", account := ⟨"alice"⟩, amount := 7, value := 12 }] := by
    decide +kernel
  have hlast : lastValue stakedGauge (s.publishes.map Prod.snd) = some 5 := by decide +kernel
  have htotal : s.campus.staking.loadConfig.totalStaked = 12 := by decide +kernel
  refine ⟨hopen, by decide +kernel, hhold, by decide +kernel, by decide +kernel, hjournal, hlast,
    htotal, fun h => ?_, fun h => ?_⟩
  · -- the gauge was last passed the first stake's total, not the committed one
    clear_value s
    have hfive : s.campus.staking.loadConfig.totalStaked = 5 :=
      h ⟨stakedGauge, fun c => c.staking.loadConfig.totalStaked⟩ List.mem_cons_self 5 hlast
    exact absurd (htotal.symm.trans hfive) (by decide)
  · -- lodged in commit order, the journal would end with the first stake's event
    clear_value s c
    have hj := (h.atOnce hhold).1
    rw [hj, List.drop_left, hcommitted] at hjournal
    exact absurd hjournal (by decide)

end CampusLedger
