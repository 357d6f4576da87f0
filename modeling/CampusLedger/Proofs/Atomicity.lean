import CampusLedger.Proofs.Calls
/-!
# Operations are all or nothing

An operation of either ledger that returns a failure leaves the committed books of both ledgers,
the bank's holdings and receipts, the identifiers issued and the audit trail exactly as they
were; one that succeeds commits exactly the draft its transaction body built. A panic while
publishing the audit event of a committed operation is not a returned failure: the books stay
committed then. The reads of both ledgers change none of this, whatever their outcome.
-/

namespace CampusLedger

open Act

theorem ledger_operations_all_or_nothing :
    (∀ (k : Staking.Op) (c : Campus) (e : Failure), (k.act.exec c).1 = .error e →
      (∀ t, e ≠ .panic t) → (k.act.exec c).2.core = c.core) ∧
    (∀ (k : Staking.Op) (c : Campus), (k.act.exec c).1 = .ok () →
      ∃ d c₁, (k.body c.staking).exec c = (.ok ((), d), c₁) ∧
        (k.act.exec c).2.staking = d ∧ (k.act.exec c).2.bank = c₁.bank) ∧
    (∀ (k : Reputation.Op) (c : Campus) (e : Failure), (k.act.exec c).1 = .error e →
      (∀ t, e ≠ .panic t) → (k.act.exec c).2.core = c.core) ∧
    (∀ (k : Reputation.Op) (c : Campus), (k.act.exec c).1 = .ok () →
      ∃ d c₁, (k.body c.reputation).exec c = (.ok ((), d), c₁) ∧
        (k.act.exec c).2.reputation = d ∧ (k.act.exec c).2.bank = c₁.bank) ∧
    (∀ (k : Read) (c : Campus), (k.act.exec c).2.core = c.core) := by
  refine ⟨fun k c e h he => ?_, fun k c h => ?_, fun k c e h he => ?_, fun k c h => ?_,
    fun k c => k.quiet c⟩
  · have hk := k.ended c
    rw [h] at hk
    exact hk.quiet_of_error he
  · have hk := k.ended c
    rw [h] at hk
    obtain ⟨-, ⟨d, c₁, hb, rfl⟩, hc⟩ := hk.commits_of_ok
    exact ⟨d, c₁, hb, hc.2.1, hc.2.2.1⟩
  · have hk := k.ended c
    rw [h] at hk
    exact hk.quiet_of_error he
  · have hk := k.ended c
    rw [h] at hk
    obtain ⟨-, ⟨d, c₁, hb, rfl⟩, hc⟩ := hk.commits_of_ok
    exact ⟨d, c₁, hb, hc.1, hc.2.2.1⟩

end CampusLedger
