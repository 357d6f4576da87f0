import CampusLedger.Proofs.Lifecycle
import CampusLedger.Proofs.Composite
/-!
# Registration

Each ledger's registry only grows: a registration adds one record at the end, a score update, a
stake or a withdrawal rewrites the record of a registered account in place, and nothing removes
one. The registry counts its records, so the number of users a ledger reports is the number of
its accounts, and it rises by one exactly when a registration succeeds. A second registration of
an account is refused and changes nothing; a live request on a campus with no fault armed is
told that the account is already registered. Scores are only added to, and the weights are
fixed once the ledger is launched, so no account's pillar scores or composite ever fall.
-/

namespace CampusLedger

open Act Ledger

namespace Ledger.Registry

variable {α : Type} {r r' r'' : Registry α} {id id' : AccountId} {x y : α}

/-- What a later registry keeps of an earlier one: its accounts, in order, come first. -/
def Grows (r r' : Registry α) : Prop := r.records.map Prod.fst <+: r'.records.map Prod.fst

theorem Grows.refl (r : Registry α) : r.Grows r := List.prefix_refl _

theorem Grows.trans (h₁ : r.Grows r') (h₂ : r'.Grows r'') : r.Grows r'' := List.IsPrefix.trans h₁ h₂

theorem grows_register (h : r.register id x = .ok r') : r.Grows r' := by
  obtain ⟨-, hrec, -⟩ := register_ok h
  unfold Grows
  rw [hrec, List.map_append]
  exact List.prefix_append _ _

theorem grows_put (h : r.put id x = .ok r') : r.Grows r' := by
  obtain ⟨-, hrec, -⟩ := put_ok h
  unfold Grows
  rw [hrec, map_fst_replaced]

theorem contains_iff : r.contains id = true ↔ id ∈ r.records.map Prod.fst := by
  unfold contains
  simp [List.any_eq_true]

theorem Grows.contains (h : r.Grows r') (hc : r.contains id = true) : r'.contains id = true :=
  contains_iff.mpr (h.subset (contains_iff.mp hc))

/-- The registry counts its records, and files none under the empty account. -/
structure Counted (r : Registry α) : Prop where
  total : r.total = r.records.length
  named : ∀ p ∈ r.records, p.1.isZero = false

theorem empty_counted : Counted ({} : Registry α) := ⟨rfl, fun _ hp => absurd hp List.not_mem_nil⟩

theorem Counted.register (hc : r.Counted) (hid : id.isZero = false)
    (h : r.register id x = .ok r') : r'.Counted := by
  obtain ⟨-, hrec, htotal⟩ := register_ok h
  refine ⟨by rw [htotal, hrec, List.length_append, hc.total, List.length_singleton], fun p hp => ?_⟩
  rw [hrec] at hp
  rcases List.mem_append.mp hp with hp | hp
  · exact hc.named p hp
  · rw [List.mem_singleton.mp hp]
    exact hid

theorem Counted.put (hc : r.Counted) (h : r.put id x = .ok r') : r'.Counted := by
  obtain ⟨hmem, hrec, htotal⟩ := put_ok h
  refine ⟨by rw [htotal, hrec, replaced, List.length_map, hc.total], fun p hp => ?_⟩
  rw [hrec] at hp
  rcases mem_replaced hp with rfl | hp
  · -- the rewritten record keeps the account it was filed under
    obtain ⟨q, hq, hqid⟩ := List.mem_map.mp hmem
    rw [← hqid]
    exact hc.named q hq
  · exact hc.named p hp

/-- A registered account is not the empty one. -/
theorem Counted.named_of_contains (hc : r.Counted) (h : r.contains id = true) :
    id.isZero = false := by
  obtain ⟨q, hq, rfl⟩ := List.mem_map.mp (contains_iff.mp h)
  exact hc.named q hq

theorem find?_of_lookup (h : r.lookup id = .ok x) : r.find? id = some x := by
  unfold lookup at h
  split at h
  · rename_i a ha
    cases h
    exact ha
  · cases h

theorem find?_register (h : r.register id x = .ok r') (hy : r.find? id' = some y) :
    r'.find? id' = some y := by
  obtain ⟨-, hrec, -⟩ := register_ok h
  unfold find? at hy ⊢
  obtain ⟨p, hp, rfl⟩ := Option.map_eq_some_iff.mp hy
  rw [hrec, List.find?_append, hp]
  rfl

theorem find?_put_self (h : r.put id x = .ok r') : r'.find? id = some x := by
  obtain ⟨hmem, hrec, -⟩ := put_ok h
  obtain ⟨q, hq, hqid⟩ := List.mem_map.mp hmem
  have hany : r.records.any (Prod.fst · == id) := List.any_eq_true.mpr ⟨q, hq, by simp [hqid]⟩
  unfold find?
  rw [hrec, replaced, Asset.find?_replace_self Prod.fst (show Prod.fst (id, x) = id from rfl) hany]
  rfl

theorem find?_put_ne (h : r.put id x = .ok r') (hne : id' ≠ id) : r'.find? id' = r.find? id' := by
  obtain ⟨-, hrec, -⟩ := put_ok h
  unfold find?
  rw [hrec, replaced, Asset.find?_replace_ne Prod.fst (show Prod.fst (id, x) = id from rfl) hne]

end Ledger.Registry

namespace Scores

theorem addPillar_ok {p : Pillar} {a b v : Nat} (h : addPillar p a b = .ok v) : v = a + b := by
  unfold addPillar at h
  split at h
  · rename_i v' hv
    cases h
    exact ((Word.add_ok_iff _ _ _).mp hv).2
  · cases h

/-- A pillarwise sum that fits adds each pillar's delta to its score. -/
theorem add_get {s d s' : Scores} (h : s.add d = .ok s') (p : Pillar) :
    s'.get p = s.get p + d.get p := by
  unfold add at h
  rcases ha : addPillar .attendance s.attendance d.attendance with e | a
  · simp [ha, bind, Except.bind] at h
  rcases hv : addPillar .voting s.voting d.voting with e | v
  · simp [ha, hv, bind, Except.bind] at h
  rcases hf : addPillar .feedback s.feedback d.feedback with e | f
  · simp [ha, hv, hf, bind, Except.bind] at h
  rcases hc : addPillar .certification s.certification d.certification with e | c
  · simp [ha, hv, hf, hc, bind, Except.bind] at h
  simp only [ha, hv, hf, hc, bind, Except.bind, pure, Except.pure, Except.ok.injEq] at h
  subst h
  cases p
  · exact addPillar_ok ha
  · exact addPillar_ok hv
  · exact addPillar_ok hf
  · exact addPillar_ok hc

/-- A weighted sum does not fall when no score does. -/
theorem weighted_le {s s' w : Scores} (h : ∀ p, s.get p ≤ s'.get p) :
    s.attendance * w.attendance + s.voting * w.voting + s.feedback * w.feedback +
        s.certification * w.certification ≤
      s'.attendance * w.attendance + s'.voting * w.voting + s'.feedback * w.feedback +
        s'.certification * w.certification := by
  have ha : s.attendance * w.attendance ≤ s'.attendance * w.attendance :=
    Nat.mul_le_mul_right _ (h .attendance)
  have hv : s.voting * w.voting ≤ s'.voting * w.voting := Nat.mul_le_mul_right _ (h .voting)
  have hf : s.feedback * w.feedback ≤ s'.feedback * w.feedback :=
    Nat.mul_le_mul_right _ (h .feedback)
  have hc : s.certification * w.certification ≤ s'.certification * w.certification :=
    Nat.mul_le_mul_right _ (h .certification)
  omega

end Scores

namespace Staking

variable {b d : Book} {c c' : Campus}

/-- A registration adds its caller's fresh record; every other body rewrites a record in place
or leaves the registry alone. -/
theorem Op.accounts_cases (k : Op) (h : (k.body b).exec c = (.ok ((), d), c')) :
    (∃ ctx caller, k = .register ctx caller ∧
      b.accounts.register caller (Account.fresh caller ctx.now) = .ok d.accounts) ∨
    ((∀ ctx caller, k ≠ .register ctx caller) ∧
      (d.accounts = b.accounts ∨ ∃ a, b.accounts.put a.id a = .ok d.accounts)) := by
  cases k with
  | register ctx caller =>
    obtain ⟨r, h⟩ := step_drop_ok.mp h
    obtain ⟨hcreate, -, -⟩ := registerTx_ok h
    obtain ⟨reg, hreg, rfl⟩ := Book.createAccount_ok hcreate
    exact Or.inl ⟨ctx, caller, rfl, hreg⟩
  | launch ctx caller asset threshold =>
    obtain ⟨r, h⟩ := step_drop_ok.mp h
    obtain ⟨-, -, -, hsave, -⟩ := launchTx_ok h
    obtain rfl := Book.saveConfig_ok hsave
    exact Or.inr ⟨fun _ _ => Op.noConfusion, Or.inl rfl⟩
  | stake ctx caller deposit =>
    obtain ⟨r, h⟩ := step_drop_ok.mp h
    obtain ⟨a, a', cfg', b₂, b₃, -, -, -, -, hrec, -, hsave, hconf, -, -⟩ := stakeTx_ok h
    obtain ⟨-, rfl⟩ := Book.recordDeposit_ok hrec
    obtain ⟨reg, hput, rfl⟩ := Book.saveAccount_ok hsave
    obtain rfl := Book.saveConfig_ok hconf
    exact Or.inr ⟨fun _ _ => Op.noConfusion, Or.inr ⟨_, hput⟩⟩
  | withdraw ctx caller amount =>
    obtain ⟨r, h⟩ := step_drop_ok.mp h
    obtain ⟨a, b₁, bank, t, -, -, -, hsave, hconf, -, -, -⟩ := withdrawTx_ok h
    obtain ⟨reg, hput, rfl⟩ := Book.saveAccount_ok hsave
    obtain rfl := Book.saveConfig_ok hconf
    exact Or.inr ⟨fun _ _ => Op.noConfusion, Or.inr ⟨_, hput⟩⟩

/-- A registration of the empty account changes nothing. -/
theorem Op.register_empty {caller : AccountId} (hz : caller.isZero = true) (ctx : Context)
    (c : Campus) : Frame.quiet.rel c ((Op.register ctx caller).act.exec c).2 := by
  show Frame.quiet.rel c ((Staking.register ctx caller >>= fun _ => pure ()).exec c).2
  unfold Staking.register
  rw [exec_drop, exec_bind, exec_instrumented]
  simp only [hz, if_true]
  exact quiet_observeOperation _ _ _ c

end Staking

namespace Reputation

variable {b d : Book} {c c' : Campus}

/-- A registration adds its caller's fresh record; every other body rewrites a record in place
or leaves the registry alone. -/
theorem Op.accounts_cases (k : Op) (h : (k.body b).exec c = (.ok ((), d), c')) :
    (∃ ctx caller, k = .register ctx caller ∧
      b.accounts.register caller (Account.fresh caller ctx.now) = .ok d.accounts) ∨
    ((∀ ctx caller, k ≠ .register ctx caller) ∧
      (d.accounts = b.accounts ∨ ∃ a, b.accounts.put a.id a = .ok d.accounts)) := by
  cases k with
  | register ctx caller =>
    obtain ⟨r, h⟩ := step_drop_ok.mp h
    obtain ⟨hcreate, -, -⟩ := registerTx_ok h
    obtain ⟨reg, hreg, rfl⟩ := Book.createAccount_ok hcreate
    exact Or.inl ⟨ctx, caller, rfl, hreg⟩
  | launch ctx caller weights =>
    obtain ⟨r, h⟩ := step_drop_ok.mp h
    obtain ⟨-, -, hsave, -⟩ := launchTx_ok h
    obtain rfl := Book.saveConfig_ok hsave
    exact Or.inr ⟨fun _ _ => Op.noConfusion, Or.inl rfl⟩
  | update ctx caller account delta =>
    obtain ⟨r, h⟩ := step_drop_ok.mp h
    obtain ⟨a, a', -, -, -, hsave, -, -⟩ := updateTx_ok h
    obtain ⟨reg, hput, rfl⟩ := Book.saveAccount_ok hsave
    exact Or.inr ⟨fun _ _ => Op.noConfusion, Or.inr ⟨_, hput⟩⟩

/-- A registration of the empty account changes nothing. -/
theorem Op.register_empty {caller : AccountId} (hz : caller.isZero = true) (ctx : Context)
    (c : Campus) : Frame.quiet.rel c ((Op.register ctx caller).act.exec c).2 := by
  show Frame.quiet.rel c ((Reputation.register ctx caller >>= fun _ => pure ()).exec c).2
  unfold Reputation.register
  rw [exec_drop, exec_bind, exec_instrumented]
  simp only [hz, if_true]
  exact quiet_observeOperation _ _ _ c

/-- Every committed body keeps each record filed under its own account. -/
theorem Op.keyed (k : Op) (hk : b.accounts.Keyed Account.id)
    (h : (k.body b).exec c = (.ok ((), d), c')) : d.accounts.Keyed Account.id := by
  rcases k.accounts_cases h with ⟨ctx, caller, -, hreg⟩ | ⟨-, hsame | ⟨a, hput⟩⟩
  · exact Registry.keyed_register hk (show (Account.fresh caller ctx.now).id = caller from rfl) hreg
  · rw [hsame]
    exact hk
  · exact Registry.keyed_put hk rfl hput

/-- A later record of an account: no pillar score and not the composite is lower. -/
structure Account.Rises (a a' : Account) : Prop where
  scores : ∀ p, a.scores.get p ≤ a'.scores.get p
  composite : a.composite ≤ a'.composite

theorem Account.Rises.refl (a : Account) : a.Rises a := ⟨fun _ => Nat.le_refl _, Nat.le_refl _⟩

theorem Account.Rises.trans {a₁ a₂ a₃ : Account} (h₁ : a₁.Rises a₂) (h₂ : a₂.Rises a₃) :
    a₁.Rises a₃ :=
  ⟨fun p => Nat.le_trans (h₁.scores p) (h₂.scores p), Nat.le_trans h₁.composite h₂.composite⟩

/-- What a later state of the reputation books keeps of an earlier one: every account stays
registered, in order, and none of its scores nor its composite falls. -/
structure Book.Rises (b b' : Book) : Prop where
  grows : b.accounts.Grows b'.accounts
  records : ∀ id a, b.accounts.find? id = some a →
    ∃ a', b'.accounts.find? id = some a' ∧ a.Rises a'

theorem Book.Rises.refl (b : Book) : b.Rises b :=
  ⟨.refl _, fun _ a ha => ⟨a, ha, .refl a⟩⟩

theorem Book.Rises.trans {b₁ b₂ b₃ : Book} (h₁ : b₁.Rises b₂) (h₂ : b₂.Rises b₃) : b₁.Rises b₃ where
  grows := h₁.grows.trans h₂.grows
  records id a ha := by
    obtain ⟨a₂, ha₂, hr₁⟩ := h₁.records id a ha
    obtain ⟨a₃, ha₃, hr₂⟩ := h₂.records id a₂ ha₂
    exact ⟨a₃, ha₃, hr₁.trans hr₂⟩

/-- A score update adds its delta to the account's scores and recomputes the composite under
the same weights, so neither falls. -/
theorem updated_rises {a a' : Account} {delta w : Scores} {now : Instant}
    (hexact : a.composite = a.scores.attendance * w.attendance + a.scores.voting * w.voting +
      a.scores.feedback * w.feedback + a.scores.certification * w.certification)
    (h : a.applyDelta delta w now = .ok a') : a.Rises a' := by
  obtain ⟨-, hadd, hcomp⟩ := Account.applyDelta_ok h
  have hscores : ∀ p, a.scores.get p ≤ a'.scores.get p := fun p => by
    rw [Scores.add_get hadd p]
    exact Nat.le_add_right _ _
  obtain ⟨hnew, -⟩ := Scores.composite_ok hcomp
  refine ⟨hscores, ?_⟩
  rw [hexact, hnew]
  exact Scores.weighted_le hscores

/-- Every committed body keeps each record and lets none fall. -/
theorem Op.rises (k : Op) (hk : b.accounts.Keyed Account.id) (hb : Composed b)
    (h : (k.body b).exec c = (.ok ((), d), c')) : b.Rises d := by
  cases k with
  | register ctx caller =>
    obtain ⟨r, h⟩ := step_drop_ok.mp h
    obtain ⟨hcreate, -, -⟩ := registerTx_ok h
    obtain ⟨reg, hreg, rfl⟩ := Book.createAccount_ok hcreate
    exact ⟨Registry.grows_register hreg, fun id a ha => ⟨a, Registry.find?_register hreg ha, .refl a⟩⟩
  | launch ctx caller weights =>
    obtain ⟨r, h⟩ := step_drop_ok.mp h
    obtain ⟨-, -, hsave, -⟩ := launchTx_ok h
    obtain rfl := Book.saveConfig_ok hsave
    exact ⟨.refl _, fun _ a ha => ⟨a, ha, .refl a⟩⟩
  | update ctx caller account delta =>
    obtain ⟨r, h⟩ := step_drop_ok.mp h
    obtain ⟨a, a', -, hfind, happly, hsave, -, -⟩ := updateTx_ok h
    obtain ⟨reg, hput, rfl⟩ := Book.saveAccount_ok hsave
    have hmem := Registry.lookup_ok hfind
    -- the updated record is filed under the account it was read from
    have hid : a'.id = account := (Account.applyDelta_ok happly).1.trans (hk.key_eq _ hmem)
    rw [hid] at hput
    refine ⟨Registry.grows_put hput, fun id x hx => ?_⟩
    by_cases hne : id = account
    · subst hne
      rw [Registry.find?_of_lookup hfind, Option.some.injEq] at hx
      subst hx
      exact ⟨a', Registry.find?_put_self hput, updated_rises (hb.exact _ hmem) happly⟩
    · exact ⟨x, (Registry.find?_put_ne hput hne).trans hx, .refl x⟩

end Reputation

namespace Staking

variable {c : Campus} {ctx : Context} {caller : AccountId}

/-- A registration that succeeds counts one more user. -/
theorem Op.register_counts (h : ((Op.register ctx caller).act.exec c).1 = .ok ()) :
    ((Op.register ctx caller).act.exec c).2.staking.accounts.total =
      c.staking.accounts.total + 1 := by
  obtain ⟨d, c₁, hb, hd⟩ := (Op.register ctx caller).commits_of_ok h
  obtain ⟨r, hb⟩ := step_drop_ok.mp hb
  obtain ⟨hcreate, -, -⟩ := registerTx_ok hb
  obtain ⟨reg, hreg, rfl⟩ := Book.createAccount_ok hcreate
  rw [hd]
  exact (Registry.register_ok hreg).2.2

/-- With the audit queue open, a second registration of an account fails and changes nothing. -/
theorem Op.register_again (hq : c.outbox.closed = false)
    (hreg : c.staking.accounts.contains caller = true) :
    ((Op.register ctx caller).act.exec c).1 ≠ .ok () ∧
      ((Op.register ctx caller).act.exec c).2.staking = c.staking := by
  have hfail : ((Op.register ctx caller).act.exec c).1 ≠ .ok () := by
    intro hok
    obtain ⟨d, c₁, hb, -⟩ := (Op.register ctx caller).commits_of_ok hok
    obtain ⟨r, hb⟩ := step_drop_ok.mp hb
    obtain ⟨hcreate, -, -⟩ := registerTx_ok hb
    obtain ⟨reg, hr, -⟩ := Book.createAccount_ok hcreate
    exact (Registry.register_ok hr).1 (Registry.contains_iff.mp hreg)
  exact ⟨hfail, Classical.byContradiction fun hmoved => hfail (Op.ok_of_moved _ hq hmoved)⟩

end Staking

namespace Reputation

variable {c : Campus} {ctx : Context} {caller : AccountId}

/-- A registration that succeeds counts one more user. -/
theorem Op.register_counts (h : ((Op.register ctx caller).act.exec c).1 = .ok ()) :
    ((Op.register ctx caller).act.exec c).2.reputation.accounts.total =
      c.reputation.accounts.total + 1 := by
  obtain ⟨d, c₁, hb, hd⟩ := (Op.register ctx caller).commits_of_ok h
  obtain ⟨r, hb⟩ := step_drop_ok.mp hb
  obtain ⟨hcreate, -, -⟩ := registerTx_ok hb
  obtain ⟨reg, hreg, rfl⟩ := Book.createAccount_ok hcreate
  rw [hd]
  exact (Registry.register_ok hreg).2.2

/-- With the audit queue open, a second registration of an account fails and changes nothing. -/
theorem Op.register_again (hq : c.outbox.closed = false)
    (hreg : c.reputation.accounts.contains caller = true) :
    ((Op.register ctx caller).act.exec c).1 ≠ .ok () ∧
      ((Op.register ctx caller).act.exec c).2.reputation = c.reputation := by
  have hfail : ((Op.register ctx caller).act.exec c).1 ≠ .ok () := by
    intro hok
    obtain ⟨d, c₁, hb, -⟩ := (Op.register ctx caller).commits_of_ok hok
    obtain ⟨r, hb⟩ := step_drop_ok.mp hb
    obtain ⟨hcreate, -, -⟩ := registerTx_ok hb
    obtain ⟨reg, hr, -⟩ := Book.createAccount_ok hcreate
    exact (Registry.register_ok hr).1 (Registry.contains_iff.mp hreg)
  exact ⟨hfail, Classical.byContradiction fun hmoved => hfail (Op.ok_of_moved _ hq hmoved)⟩

end Reputation

variable {c : Campus}

/-- With the audit queue open, every call but a successful staking registration leaves the
staking ledger's count of users. -/
theorem Call.staking_count_stays (k : Call) (hq : c.outbox.closed = false)
    (hk : ∀ ctx caller, k = .staking (.register ctx caller) → (k.act.exec c).1 ≠ .ok ()) :
    (k.next c).staking.accounts.total = c.staking.accounts.total := by
  rcases k.staking_next c with heq | ⟨o, d, c₁, rfl, hb, heq⟩
  · rw [heq]
  rw [heq]
  rcases o.accounts_cases hb with ⟨ctx, caller, rfl, hreg⟩ | ⟨-, hsame | ⟨a, hput⟩⟩
  · -- a registration that commits moves the books, so it succeeded
    have htotal := (Registry.register_ok hreg).2.2
    refine absurd (Staking.Op.ok_of_moved _ hq fun hsame => ?_) (hk ctx caller rfl)
    rw [heq.symm.trans hsame] at htotal
    omega
  · rw [hsame]
  · exact (Registry.put_ok hput).2.2

/-- With the audit queue open, every call but a successful reputation registration leaves the
reputation ledger's count of users. -/
theorem Call.reputation_count_stays (k : Call) (hq : c.outbox.closed = false)
    (hk : ∀ ctx caller, k = .reputation (.register ctx caller) → (k.act.exec c).1 ≠ .ok ()) :
    (k.next c).reputation.accounts.total = c.reputation.accounts.total := by
  rcases k.reputation_next c with heq | ⟨o, d, c₁, rfl, hb, heq⟩
  · rw [heq]
  rw [heq]
  rcases o.accounts_cases hb with ⟨ctx, caller, rfl, hreg⟩ | ⟨-, hsame | ⟨a, hput⟩⟩
  · have htotal := (Registry.register_ok hreg).2.2
    refine absurd (Reputation.Op.ok_of_moved _ hq fun hsame => ?_) (hk ctx caller rfl)
    rw [heq.symm.trans hsame] at htotal
    omega
  · rw [hsame]
  · exact (Registry.put_ok hput).2.2

/-- The registries of a campus: each counts its records and files none under the empty
account, and the reputation records are filed under their own accounts with exact composites. -/
structure Registered (c : Campus) : Prop where
  staking : c.staking.accounts.Counted
  reputation : c.reputation.accounts.Counted
  keyed : c.reputation.accounts.Keyed Reputation.Account.id
  composed : Reputation.Composed c.reputation

theorem registered_start {controller escrow : AccountId}
    (hs : c.staking = Staking.Book.fresh controller escrow)
    (hr : c.reputation = Reputation.Book.fresh controller) : Registered c where
  staking := by
    rw [hs]
    exact Registry.empty_counted
  reputation := by
    rw [hr]
    exact Registry.empty_counted
  keyed := by
    rw [hr]
    exact Registry.empty_keyed _
  composed := hr ▸ Reputation.fresh_composed controller

theorem Call.staking_counted (k : Call) (h : c.staking.accounts.Counted) :
    (k.next c).staking.accounts.Counted := by
  rcases k.staking_next c with heq | ⟨o, d, c₁, rfl, hb, heq⟩
  · rw [heq]
    exact h
  rcases o.accounts_cases hb with ⟨ctx, caller, rfl, hreg⟩ | ⟨-, hsame | ⟨a, hput⟩⟩
  · cases hz : caller.isZero
    · rw [heq]
      exact h.register hz hreg
    · -- a registration of the empty account commits nothing
      show ((Staking.Op.register ctx caller).act.exec c).2.staking.accounts.Counted
      rw [(Frame.quiet_books (Staking.Op.register_empty hz ctx c)).2.1]
      exact h
  · rw [heq, hsame]
    exact h
  · rw [heq]
    exact h.put hput

theorem Call.reputation_counted (k : Call) (h : c.reputation.accounts.Counted) :
    (k.next c).reputation.accounts.Counted := by
  rcases k.reputation_next c with heq | ⟨o, d, c₁, rfl, hb, heq⟩
  · rw [heq]
    exact h
  rcases o.accounts_cases hb with ⟨ctx, caller, rfl, hreg⟩ | ⟨-, hsame | ⟨a, hput⟩⟩
  · cases hz : caller.isZero
    · rw [heq]
      exact h.register hz hreg
    · show ((Reputation.Op.register ctx caller).act.exec c).2.reputation.accounts.Counted
      rw [(Frame.quiet_books (Reputation.Op.register_empty hz ctx c)).1]
      exact h
  · rw [heq, hsame]
    exact h
  · rw [heq]
    exact h.put hput

theorem Call.keeps_registered (k : Call) (h : Registered c) : Registered (k.next c) where
  staking := k.staking_counted h.staking
  reputation := k.reputation_counted h.reputation
  keyed := by
    rcases k.reputation_next c with heq | ⟨o, d, c₁, -, hb, heq⟩
    · rw [heq]
      exact h.keyed
    · rw [heq]
      exact o.keyed h.keyed hb
  composed := k.keeps_composed h.composed

theorem Call.staking_grows (k : Call) (c : Campus) :
    c.staking.accounts.Grows (k.next c).staking.accounts := by
  rcases k.staking_next c with heq | ⟨o, d, c₁, -, hb, heq⟩
  · rw [heq]
    exact .refl _
  rw [heq]
  rcases o.accounts_cases hb with ⟨ctx, caller, -, hreg⟩ | ⟨-, hsame | ⟨a, hput⟩⟩
  · exact Registry.grows_register hreg
  · rw [hsame]
    exact .refl _
  · exact Registry.grows_put hput

theorem Call.reputation_rises (k : Call) (h : Registered c) :
    c.reputation.Rises (k.next c).reputation := by
  rcases k.reputation_next c with heq | ⟨o, d, c₁, -, hb, heq⟩
  · rw [heq]
    exact .refl _
  · rw [heq]
    exact o.rises h.keyed h.composed hb

theorem Registered.after (h : Registered c) (calls : List Call) : Registered (c.after calls) :=
  Campus.after_induction Registered (fun k _ h => k.keeps_registered h) h calls

/-- From a registered state, the staking registry only grows and no reputation record falls. -/
theorem Registered.grows_after (h : Registered c) (calls : List Call) :
    c.staking.accounts.Grows (c.after calls).staking.accounts ∧
      c.reputation.Rises (c.after calls).reputation := by
  induction calls generalizing c with
  | nil => exact ⟨.refl _, .refl _⟩
  | cons k calls ih =>
    obtain ⟨hs, hr⟩ := ih (k.keeps_registered h)
    exact ⟨(k.staking_grows c).trans hs, (k.reputation_rises h).trans hr⟩

/-- Along every run from fresh books with the audit queue open, from any state to any later one
the staking registry only grows and every reputation account stays registered with no score and
no composite lower; each ledger reports as its users the number of its accounts, one more after
a successful registration and as many after any other call; and a second registration of an
account fails and changes nothing: a live one on a campus with no fault armed is told that the
account is already registered, a cancelled one is refused as aborted, and one that meets a fault
armed at its ledger's transactions is refused by that fault. -/
theorem registries_grow_and_count_users {controller escrow : AccountId}
    (hs : c.staking = Staking.Book.fresh controller escrow)
    (hr : c.reputation = Reputation.Book.fresh controller) (hq : c.outbox.closed = false)
    (calls later : List Call) :
    let c' := c.after calls
    let c'' := c'.after later
    c'.staking.accounts.Grows c''.staking.accounts ∧ c'.reputation.Rises c''.reputation ∧
    c'.staking.loadConfig.totalUsers = c'.staking.accounts.records.length ∧
    c'.reputation.loadConfig.totalUsers = c'.reputation.accounts.records.length ∧
    (∀ ctx caller, ((Staking.Op.register ctx caller).act.exec c').1 = .ok () →
      ((Staking.Op.register ctx caller).act.exec c').2.staking.loadConfig.totalUsers =
        c'.staking.loadConfig.totalUsers + 1) ∧
    (∀ k : Call, (∀ ctx caller, k = .staking (.register ctx caller) → (k.act.exec c').1 ≠ .ok ()) →
      (k.next c').staking.loadConfig.totalUsers = c'.staking.loadConfig.totalUsers) ∧
    (∀ ctx caller, ((Reputation.Op.register ctx caller).act.exec c').1 = .ok () →
      ((Reputation.Op.register ctx caller).act.exec c').2.reputation.loadConfig.totalUsers =
        c'.reputation.loadConfig.totalUsers + 1) ∧
    (∀ k : Call,
      (∀ ctx caller, k = .reputation (.register ctx caller) → (k.act.exec c').1 ≠ .ok ()) →
      (k.next c').reputation.loadConfig.totalUsers = c'.reputation.loadConfig.totalUsers) ∧
    (∀ ctx caller, c'.staking.accounts.contains caller = true →
      ((Staking.Op.register ctx caller).act.exec c').1 ≠ .ok () ∧
      ((Staking.Op.register ctx caller).act.exec c').2.staking = c'.staking ∧
      (ctx.cancelled = false → c'.faults.armed = [] →
        ((Staking.Op.register ctx caller).act.exec c').1 =
          .error (.make .alreadyRegistered "account is already registered")) ∧
      (ctx.cancelled = true → (c'.faults.trip "stake.RunInTx").1 = false →
        ((Staking.Op.register ctx caller).act.exec c').1 = .error (.wrapCoded .timeout
          "transaction aborted: context cancelled" (.context .canceled))) ∧
      ((c'.faults.trip "stake.RunInTx").1 = true →
        ((Staking.Op.register ctx caller).act.exec c').1 = .error (.injected "stake.RunInTx"))) ∧
    (∀ ctx caller, c'.reputation.accounts.contains caller = true →
      ((Reputation.Op.register ctx caller).act.exec c').1 ≠ .ok () ∧
      ((Reputation.Op.register ctx caller).act.exec c').2.reputation = c'.reputation ∧
      (ctx.cancelled = false → c'.faults.armed = [] →
        ((Reputation.Op.register ctx caller).act.exec c').1 =
          .error (.make .alreadyRegistered "account is already registered")) ∧
      (ctx.cancelled = true → (c'.faults.trip "rep.RunInTx").1 = false →
        ((Reputation.Op.register ctx caller).act.exec c').1 = .error (.wrapCoded .timeout
          "transaction aborted: context cancelled" (.context .canceled))) ∧
      ((c'.faults.trip "rep.RunInTx").1 = true →
        ((Reputation.Op.register ctx caller).act.exec c').1 = .error (.injected "rep.RunInTx"))) := by
  intro c' c''
  have hreg : Registered c' := (registered_start hs hr).after calls
  have hq' : c'.outbox.closed = false := Campus.open_after hq calls
  obtain ⟨hgrow, hrise⟩ := hreg.grows_after later
  refine ⟨hgrow, hrise, hreg.staking.total, hreg.reputation.total,
    fun _ _ h => Staking.Op.register_counts h, fun k hk => k.staking_count_stays hq' hk,
    fun _ _ h => Reputation.Op.register_counts h, fun k hk => k.reputation_count_stays hq' hk,
    fun ctx caller hc => ?_, fun ctx caller hc => ?_⟩
  · -- the account is registered, so it is not the empty one
    have hz := hreg.staking.named_of_contains hc
    exact ⟨(Staking.Op.register_again hq' hc).1, (Staking.Op.register_again hq' hc).2,
      fun hl hf => Staking.Op.register_taken hf hl hz hc,
      fun hl ht => Staking.Op.register_error hz (stakingTx_cancelled ht hl),
      fun ht => Staking.Op.register_error hz (stakingTx_faulted ht)⟩
  · have hz := hreg.reputation.named_of_contains hc
    exact ⟨(Reputation.Op.register_again hq' hc).1, (Reputation.Op.register_again hq' hc).2,
      fun hl hf => Reputation.Op.register_taken hf hl hz hc,
      fun hl ht => Reputation.Op.register_error hz (reputationTx_cancelled ht hl),
      fun ht => Reputation.Op.register_error hz (reputationTx_faulted ht)⟩

theorem registries_after_two_registrations :
    let c := Campus.fresh {} 0
    let calls : List Call := [.staking (.register { now := ⟨0⟩ } ⟨"ann"⟩)]
    let later : List Call := [.reputation (.register { now := ⟨0⟩ } ⟨"ann"⟩)]
    c.staking = Staking.Book.fresh ⟨"controller"⟩ ⟨"escrow"⟩ ∧
      c.reputation = Reputation.Book.fresh ⟨"controller"⟩ ∧ c.outbox.closed = false ∧
      let c' := c.after calls
      let c'' := c'.after later
      c'.staking.accounts.Grows c''.staking.accounts ∧ c'.reputation.Rises c''.reputation ∧
      c'.staking.loadConfig.totalUsers = c'.staking.accounts.records.length ∧
      c'.reputation.loadConfig.totalUsers = c'.reputation.accounts.records.length ∧
      (∀ ctx caller, ((Staking.Op.register ctx caller).act.exec c').1 = .ok () →
        ((Staking.Op.register ctx caller).act.exec c').2.staking.loadConfig.totalUsers =
          c'.staking.loadConfig.totalUsers + 1) ∧
      (∀ k : Call, (∀ ctx caller, k = .staking (.register ctx caller) → (k.act.exec c').1 ≠ .ok ()) →
        (k.next c').staking.loadConfig.totalUsers = c'.staking.loadConfig.totalUsers) ∧
      (∀ ctx caller, ((Reputation.Op.register ctx caller).act.exec c').1 = .ok () →
        ((Reputation.Op.register ctx caller).act.exec c').2.reputation.loadConfig.totalUsers =
          c'.reputation.loadConfig.totalUsers + 1) ∧
      (∀ k : Call,
        (∀ ctx caller, k = .reputation (.register ctx caller) → (k.act.exec c').1 ≠ .ok ()) →
        (k.next c').reputation.loadConfig.totalUsers = c'.reputation.loadConfig.totalUsers) ∧
      (∀ ctx caller, c'.staking.accounts.contains caller = true →
        ((Staking.Op.register ctx caller).act.exec c').1 ≠ .ok () ∧
        ((Staking.Op.register ctx caller).act.exec c').2.staking = c'.staking ∧
        (ctx.cancelled = false → c'.faults.armed = [] →
          ((Staking.Op.register ctx caller).act.exec c').1 =
            .error (.make .alreadyRegistered "account is already registered")) ∧
        (ctx.cancelled = true → (c'.faults.trip "stake.RunInTx").1 = false →
          ((Staking.Op.register ctx caller).act.exec c').1 = .error (.wrapCoded .timeout
            "transaction aborted: context cancelled" (.context .canceled))) ∧
        ((c'.faults.trip "stake.RunInTx").1 = true →
          ((Staking.Op.register ctx caller).act.exec c').1 = .error (.injected "stake.RunInTx"))) ∧
      (∀ ctx caller, c'.reputation.accounts.contains caller = true →
        ((Reputation.Op.register ctx caller).act.exec c').1 ≠ .ok () ∧
        ((Reputation.Op.register ctx caller).act.exec c').2.reputation = c'.reputation ∧
        (ctx.cancelled = false → c'.faults.armed = [] →
          ((Reputation.Op.register ctx caller).act.exec c').1 =
            .error (.make .alreadyRegistered "account is already registered")) ∧
        (ctx.cancelled = true → (c'.faults.trip "rep.RunInTx").1 = false →
          ((Reputation.Op.register ctx caller).act.exec c').1 = .error (.wrapCoded .timeout
            "transaction aborted: context cancelled" (.context .canceled))) ∧
        ((c'.faults.trip "rep.RunInTx").1 = true →
          ((Reputation.Op.register ctx caller).act.exec c').1 = .error (.injected "rep.RunInTx"))) :=
  ⟨rfl, rfl, rfl, registries_grow_and_count_users rfl rfl rfl _ _⟩

/-- A second registration whose request was cancelled, or that meets a fault armed at the
ledger's transactions, is refused before the registry is read: it is not told that the account
is already registered. -/
theorem register_refused_before_registry_read :
    let c := (Campus.fresh {} 0).after [.staking (.register { now := ⟨0⟩ } ⟨"ann"⟩)]
    c.staking.accounts.contains ⟨"ann"⟩ = true ∧
      ((Staking.Op.register { now := ⟨0⟩, cancelled := true } ⟨"ann"⟩).act.exec c).1 =
        .error (.wrapCoded .timeout "transaction aborted: context cancelled" (.context .canceled)) ∧
      ((Staking.Op.register { now := ⟨0⟩ } ⟨"ann"⟩).act.exec
        { c with faults := c.faults.arm "stake.RunInTx" 1 }).1 =
        .error (.injected "stake.RunInTx") := by
  intro c
  exact ⟨by decide, Staking.Op.register_error rfl (stakingTx_cancelled (by decide) rfl),
    Staking.Op.register_error rfl (stakingTx_faulted (by decide))⟩

end CampusLedger
