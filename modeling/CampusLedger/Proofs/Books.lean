import CampusLedger.Proofs.Registry
import CampusLedger.Staking.Book
import CampusLedger.Reputation.Book
/-!
# Writes to the books

Through a store handed over for a transaction, each write replaces one part of the books: the
configuration, the registry, or the credited deposits. A stake adds its amount to the account
and to the total, each checked against the word range; a withdrawal subtracts it from both. A
score delta adds pillar by pillar, and the new composite is the exact weighted sum of the new
scores, refused past the word range.
-/

namespace CampusLedger

open Ledger

namespace Ledger.Guard

theorem canInitialize_ok {g : Guard} {caller : AccountId} (h : g.canInitialize caller = .ok ()) :
    g.initialized = false := by
  unfold canInitialize at h
  cases hg : g.requireController caller with
  | error e => simp [hg, bind, Except.bind] at h
  | ok u =>
    cases hi : g.initialized
    · rfl
    · simp [hg, hi, bind, Except.bind] at h

theorem requirePrivileged_ok {g : Guard} {caller : AccountId}
    (h : g.requirePrivileged caller = .ok ()) : g.initialized = true := by
  unfold requirePrivileged at h
  cases hg : g.requireController caller with
  | error e => simp [hg, bind, Except.bind] at h
  | ok u =>
    cases hi : g.initialized
    · simp [hg, hi, bind, Except.bind, requireInitialized] at h
    · rfl

theorem requireInitialized_ok {g : Guard} (h : g.requireInitialized = .ok ()) :
    g.initialized = true := by
  unfold requireInitialized at h
  cases hi : g.initialized
  · simp [hi] at h
  · rfl

end Ledger.Guard

namespace Staking

namespace Book

variable {b b' : Book}

@[simp] theorem loadConfig_guard : b.loadConfig.guard = b.config.guard := rfl
@[simp] theorem loadConfig_escrow : b.loadConfig.escrow = b.config.escrow := rfl
@[simp] theorem loadConfig_asset : b.loadConfig.asset = b.config.asset := rfl
@[simp] theorem loadConfig_totalStaked : b.loadConfig.totalStaked = b.config.totalStaked := rfl

theorem createAccount_ok {a : Account} (h : b.createAccount .readWrite a = .ok b') :
    ∃ r, b.accounts.register a.id a = .ok r ∧ b' = { b with accounts := r } := by
  unfold createAccount at h
  cases hr : b.accounts.register a.id a with
  | error e => simp [Access.write, hr, Except.map] at h
  | ok r =>
    simp only [Access.write, hr, Except.map, Except.ok.injEq] at h
    exact ⟨r, rfl, h.symm⟩

theorem saveAccount_ok {a : Account} (h : b.saveAccount .readWrite a = .ok b') :
    ∃ r, b.accounts.put a.id a = .ok r ∧ b' = { b with accounts := r } := by
  unfold saveAccount at h
  cases hr : b.accounts.put a.id a with
  | error e => simp [Access.write, hr, Except.map] at h
  | ok r =>
    simp only [Access.write, hr, Except.map, Except.ok.injEq] at h
    exact ⟨r, rfl, h.symm⟩

theorem saveConfig_ok {c : Config} (h : b.saveConfig .readWrite c = .ok b') :
    b' = { b with config := c } := by
  simp only [saveConfig, Access.write, Except.ok.injEq] at h
  exact h.symm

theorem recordDeposit_ok {t : Transfer} (h : b.recordDeposit .readWrite t = .ok b') :
    (b.deposits.any (·.id == t.id)) = false ∧ b' = { b with deposits := b.deposits ++ [t] } := by
  simp only [recordDeposit, Access.write] at h
  split at h
  · cases h
  · rename_i hfresh
    cases h
    exact ⟨by simpa using hfresh, rfl⟩

theorem findAccount_ok {id : AccountId} {a : Account} (h : b.findAccount id = .ok a) :
    (id, a) ∈ b.accounts.records :=
  Registry.lookup_ok h

end Book

/-- A deposit that passes its check is a receipt of the staked asset from the caller to the
escrow, of a positive amount. -/
theorem Config.checkDeposit_ok {cfg : Config} {caller : AccountId} {t : Transfer}
    (h : cfg.checkDeposit caller t = .ok ()) :
    t.asset = cfg.asset ∧ t.target = cfg.escrow ∧ 0 < t.amount ∧ t.source ≠ cfg.escrow ∧
      t.source = caller := by
  unfold Config.checkDeposit at h
  split_ifs at h with h₁ h₂ h₃ h₄ h₅
  simp only [bne_iff_ne, ne_eq, Decidable.not_not, beq_iff_eq] at h₁ h₂ h₃ h₄ h₅
  exact ⟨h₁, h₂, Nat.pos_of_ne_zero h₃, h₄, h₅⟩

namespace Account

variable {a a' : Account} {cfg cfg' : Config} {amount : Nat} {now : Instant}

theorem stake_ok (h : a.stake cfg amount now = .ok (a', cfg')) :
    a' = { a with staked := a.staked + amount, updatedAt := now } ∧
      cfg' = { cfg with totalStaked := cfg.totalStaked + amount } ∧
      a.staked + amount ≤ Word.max ∧ cfg.totalStaked + amount ≤ Word.max := by
  unfold stake at h
  rcases hb : Word.add a.staked amount with f | balance <;> rw [hb] at h
  · cases h
  rcases ht : Word.add cfg.totalStaked amount with f | total <;> simp only [ht] at h
  · cases h
  obtain ⟨hb₁, rfl⟩ := (Word.add_ok_iff _ _ _).mp hb
  obtain ⟨ht₁, rfl⟩ := (Word.add_ok_iff _ _ _).mp ht
  cases h
  exact ⟨rfl, rfl, hb₁, ht₁⟩

theorem canWithdraw_ok (h : a.canWithdraw amount = .ok ()) : 0 < amount ∧ amount ≤ a.staked := by
  unfold canWithdraw at h
  split_ifs at h with h₀ h₁
  simp only [beq_iff_eq] at h₀
  omega

@[simp] theorem withdraw_fst (now : Instant) :
    (a.withdraw cfg amount now).1 = { a with staked := a.staked - amount, updatedAt := now } := rfl

@[simp] theorem withdraw_snd (now : Instant) :
    (a.withdraw cfg amount now).2 = { cfg with totalStaked := cfg.totalStaked - amount } := rfl

end Account

end Staking

namespace Reputation

namespace Book

variable {b b' : Book}

@[simp] theorem loadConfig_guard : b.loadConfig.guard = b.config.guard := rfl
@[simp] theorem loadConfig_weights : b.loadConfig.weights = b.config.weights := rfl

theorem createAccount_ok {a : Account} (h : b.createAccount .readWrite a = .ok b') :
    ∃ r, b.accounts.register a.id a = .ok r ∧ b' = { b with accounts := r } := by
  unfold createAccount at h
  cases hr : b.accounts.register a.id a with
  | error e => simp [Access.write, hr, Except.map] at h
  | ok r =>
    simp only [Access.write, hr, Except.map, Except.ok.injEq] at h
    exact ⟨r, rfl, h.symm⟩

theorem saveAccount_ok {a : Account} (h : b.saveAccount .readWrite a = .ok b') :
    ∃ r, b.accounts.put a.id a = .ok r ∧ b' = { b with accounts := r } := by
  unfold saveAccount at h
  cases hr : b.accounts.put a.id a with
  | error e => simp [Access.write, hr, Except.map] at h
  | ok r =>
    simp only [Access.write, hr, Except.map, Except.ok.injEq] at h
    exact ⟨r, rfl, h.symm⟩

theorem saveConfig_ok {c : Config} (h : b.saveConfig .readWrite c = .ok b') :
    b' = { b with config := c } := by
  simp only [saveConfig, Access.write, Except.ok.injEq] at h
  exact h.symm

end Book

theorem Account.applyDelta_ok {a a' : Account} {d w : Scores} {now : Instant}
    (h : a.applyDelta d w now = .ok a') :
    a'.id = a.id ∧ a.scores.add d = .ok a'.scores ∧ Scores.composite w a'.scores = .ok a'.composite := by
  unfold Account.applyDelta at h
  cases hs : a.scores.add d with
  | error e => simp [hs, bind, Except.bind] at h
  | ok next =>
    cases hc : Scores.composite w next with
    | error e => simp [hs, hc, bind, Except.bind] at h
    | ok v =>
      simp only [hs, hc, bind, Except.bind, pure, Except.pure, Except.ok.injEq] at h
      subst h
      exact ⟨rfl, rfl, hc⟩

end Reputation

namespace Word

theorem weightedSum_ok {vs ws : List Nat} {v : Nat} (h : weightedSum vs ws = .ok v) :
    v = dot vs ws ∧ v ≤ max := by
  rw [weightedSum_eq] at h
  split_ifs at h with hlen hle
  cases h
  exact ⟨rfl, hle⟩

end Word

namespace Scores

/-- A composite that is not refused is the exact weighted sum of the scores, and fits a word. -/
theorem composite_ok {w s : Scores} {v : Nat} (h : composite w s = .ok v) :
    v = s.attendance * w.attendance + s.voting * w.voting + s.feedback * w.feedback +
      s.certification * w.certification ∧ v ≤ Word.max := by
  unfold composite at h
  rcases hw : Word.weightedSum s.values w.values with e | v' <;> rw [hw] at h
  · cases h
  cases h
  obtain ⟨rfl, hle⟩ := Word.weightedSum_ok hw
  simp only [values, Word.dot] at hle ⊢
  omega

end Scores

end CampusLedger
