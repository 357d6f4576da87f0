import CampusLedger.Proofs.Calls
import CampusLedger.Proofs.Books
/-!
# Stored composites are the weighted sums of the scores

The reputation ledger stores each account's composite beside its scores rather than deriving it
on reading. Through every run of calls the stored composite stays the exact weighted sum of the
account's current scores under the ledger's current weights, within the word range, and before
initialization every score and composite is zero. A registration stores zero scores and a zero
composite; a score update recomputes the composite of the scores it stores; the launch changes
the weights only while every score is still zero, since no update passes before it.
-/

namespace CampusLedger

namespace Reputation

open Act Ledger

/-- Every stored composite is the weighted sum of its scores under the current weights and fits
a word; before initialization every score and composite is zero. -/
structure Composed (b : Book) : Prop where
  exact : ∀ p ∈ b.accounts.records,
    p.2.composite = p.2.scores.attendance * b.config.weights.attendance +
      p.2.scores.voting * b.config.weights.voting + p.2.scores.feedback * b.config.weights.feedback +
      p.2.scores.certification * b.config.weights.certification
  bounded : ∀ p ∈ b.accounts.records, p.2.composite ≤ Word.max
  zero_before : b.config.guard.initialized = false →
    ∀ p ∈ b.accounts.records, p.2.scores = Scores.zero ∧ p.2.composite = 0

theorem fresh_composed (controller : AccountId) : Composed (Book.fresh controller) :=
  ⟨fun _ hp => absurd hp List.not_mem_nil, fun _ hp => absurd hp List.not_mem_nil,
    fun _ _ hp => absurd hp List.not_mem_nil⟩

variable {b d : Book} {c c' : Campus}

theorem Composed.registerTx {ctx : Context} {caller : AccountId} {r : Account × Nat}
    (hb : Composed b) (h : (Tx.register ctx caller b).exec c = (.ok (r, d), c')) :
    Composed d := by
  obtain ⟨hcreate, -, -⟩ := registerTx_ok h
  obtain ⟨reg, hreg, rfl⟩ := Book.createAccount_ok hcreate
  obtain ⟨-, hrec, -⟩ := Registry.register_ok hreg
  -- a new record holds zero scores and a zero composite
  have hnew : ∀ p ∈ reg.records, p ∈ b.accounts.records ∨ p.2 = Account.fresh caller ctx.now := by
    intro p hp
    rw [hrec] at hp
    rcases List.mem_append.mp hp with hp | hp
    · exact Or.inl hp
    · exact Or.inr (by rw [List.mem_singleton.mp hp])
  refine ⟨fun p hp => ?_, fun p hp => ?_, fun hi p hp => ?_⟩
  · rcases hnew p hp with hp | hp
    · exact hb.exact p hp
    · simp [hp, Account.fresh]
  · rcases hnew p hp with hp | hp
    · exact hb.bounded p hp
    · simp [hp, Account.fresh]
  · rcases hnew p hp with hp | hp
    · exact hb.zero_before hi p hp
    · simp [hp, Account.fresh, Scores.zero]

theorem Composed.launchTx {caller : AccountId} {weights : Scores} {cfg : Config}
    (hb : Composed b) (h : (Tx.launch caller weights b).exec c = (.ok (cfg, d), c')) :
    Composed d := by
  obtain ⟨hcan, rfl, hsave, -⟩ := launchTx_ok h
  obtain rfl := Book.saveConfig_ok hsave
  -- the ledger was not initialized, so every score is still zero
  have hzero := hb.zero_before (Guard.canInitialize_ok hcan)
  refine ⟨fun p hp => ?_, hb.bounded, fun hi => by simp [Guard.markInitialized] at hi⟩
  obtain ⟨hs, hc⟩ := hzero p hp
  simp [hs, hc, Scores.zero]

theorem Composed.updateTx {ctx : Context} {caller account : AccountId} {delta : Scores} {r : Nat}
    (hb : Composed b) (h : (Tx.update ctx caller account delta b).exec c = (.ok (r, d), c')) :
    Composed d := by
  obtain ⟨a, a', hpriv, -, happly, hsave, -, -⟩ := updateTx_ok h
  obtain ⟨reg, hput, rfl⟩ := Book.saveAccount_ok hsave
  obtain ⟨-, hreg, -⟩ := Registry.put_ok hput
  obtain ⟨-, -, hcomp⟩ := Account.applyDelta_ok happly
  obtain ⟨hexact, hfits⟩ := Scores.composite_ok hcomp
  have hinit := Guard.requirePrivileged_ok hpriv
  refine ⟨fun p hp => ?_, fun p hp => ?_, fun hi => by simp [hinit] at hi⟩
  · rw [hreg] at hp
    rcases Registry.mem_replaced hp with rfl | hp
    · exact hexact
    · exact hb.exact p hp
  · rw [hreg] at hp
    rcases Registry.mem_replaced hp with rfl | hp
    · exact hfits
    · exact hb.bounded p hp

/-- Every reputation body that succeeds keeps the stored composites exact. -/
theorem Op.composed (k : Op) (hb : Composed b) (h : (k.body b).exec c = (.ok ((), d), c')) :
    Composed d := by
  cases k with
  | register ctx caller =>
    obtain ⟨r, h⟩ := step_drop_ok.mp h
    exact hb.registerTx h
  | launch _ caller weights =>
    obtain ⟨r, h⟩ := step_drop_ok.mp h
    exact hb.launchTx h
  | update ctx caller account delta =>
    obtain ⟨r, h⟩ := step_drop_ok.mp h
    exact hb.updateTx h

end Reputation

open Reputation in
/-- Every call keeps the stored composites exact, whatever its outcome. -/
theorem Call.keeps_composed (k : Call) {c : Campus} (hb : Composed c.reputation) :
    Composed (k.next c).reputation := by
  rcases k.reputation_next c with heq | ⟨o, d, c₁, -, hbody, heq⟩
  · rw [heq]
    exact hb
  · rw [heq]
    exact o.composed hb hbody

open Reputation in
/-- Through every run of calls from fresh reputation books, whatever each call's outcome, every
registered account's stored composite is the exact weighted sum of its current scores under the
current weights and fits a word, and before initialization every score and composite is zero. -/
theorem composite_is_weighted_sum {controller : AccountId} {c : Campus}
    (hc : c.reputation = Book.fresh controller) (calls : List Call) :
    let b := (c.after calls).reputation
    (∀ p ∈ b.accounts.records,
      p.2.composite = p.2.scores.attendance * b.config.weights.attendance +
        p.2.scores.voting * b.config.weights.voting +
        p.2.scores.feedback * b.config.weights.feedback +
        p.2.scores.certification * b.config.weights.certification ∧
      p.2.composite ≤ Word.max) ∧
    (b.config.guard.initialized = false →
      ∀ p ∈ b.accounts.records, p.2.scores = Scores.zero ∧ p.2.composite = 0) := by
  intro b
  have hb : Composed b := Campus.after_induction (fun c => Composed c.reputation)
    (fun k _ hb => k.keeps_composed hb) (hc ▸ fresh_composed controller) calls
  exact ⟨fun p hp => ⟨hb.exact p hp, hb.bounded p hp⟩, hb.zero_before⟩

open Reputation in
theorem composite_after_launch_and_update :
    (Campus.fresh {} 0).reputation = Book.fresh ⟨"controller"⟩ ∧
      let b := ((Campus.fresh {} 0).after
        [.reputation (.register { now := ⟨0⟩ } ⟨"ann"⟩),
          .reputation (.launch { now := ⟨1⟩ } ⟨"controller"⟩ ⟨1, 2, 3, 4⟩),
          .reputation (.update { now := ⟨2⟩ } ⟨"controller"⟩ ⟨"ann"⟩ ⟨5, 0, 0, 1⟩)]).reputation
      (∀ p ∈ b.accounts.records,
        p.2.composite = p.2.scores.attendance * b.config.weights.attendance +
          p.2.scores.voting * b.config.weights.voting +
          p.2.scores.feedback * b.config.weights.feedback +
          p.2.scores.certification * b.config.weights.certification ∧
        p.2.composite ≤ Word.max) ∧
      (b.config.guard.initialized = false →
        ∀ p ∈ b.accounts.records, p.2.scores = Scores.zero ∧ p.2.composite = 0) :=
  ⟨rfl, composite_is_weighted_sum rfl _⟩

end CampusLedger
