import CampusLedger.Proofs.ScoreOrder
/-!
# Applying a score delta to a record

A delta is added to a record's scores pillar by pillar, in composite order, and the composite is
then recomputed from the new scores under the ledger's weights. Both steps are checked against
the word range: the pillars first, each in turn, and the composite only once all four fit.

So applying a delta either gives the record with the pillarwise sum, its weighted sum and the
time of the request, or an overflow that names the first pillar in composite order whose sum
would pass the range, and the composite when every pillar fits (`Account.applyDelta_eq`). A
refused delta gives back only its failure: the record the caller holds is the one it had.
-/

namespace CampusLedger

namespace Scores

/-- The first pillar, in composite order, whose score with the delta added passes the word
range. -/
def firstOverflow (s d : Scores) : Option Pillar :=
  Pillar.all.find? fun p => Word.max < s.get p + d.get p

def pillarOverflow (p : Pillar) : Failure :=
  .wrapCoded .overflow (p.name ++ " score overflows") (.arith .overflow)

def compositeOverflow : Failure :=
  .wrapCoded .overflow "composite score overflows" (.arith .overflow)

@[simp] theorem code_pillarOverflow (p : Pillar) : (pillarOverflow p).code = .overflow := rfl

@[simp] theorem code_compositeOverflow : compositeOverflow.code = .overflow := rfl

theorem firstOverflow_eq_none_iff {s d : Scores} :
    s.firstOverflow d = none ↔ ∀ p, (s.plus d).get p ≤ Word.max := by
  simp only [firstOverflow, List.find?_eq_none, decide_eq_true_eq, Nat.not_lt, get_plus]
  exact ⟨fun h p => h p (by cases p <;> decide), fun h p _ => h p⟩

/-- The pillarwise sum: the sum when every pillar fits, else the overflow of the first pillar
that does not. -/
theorem add_eq (s d : Scores) :
    s.add d = (s.firstOverflow d).elim (.ok (s.plus d)) fun p => .error (pillarOverflow p) := by
  unfold add addPillar firstOverflow
  simp only [Word.add_eq]
  -- the pillars are checked in composite order: the first that passes the range is reported
  by_cases ha : Word.max < s.attendance + d.attendance
  · simp [Pillar.all, get, ha, Nat.not_le.mpr ha, pillarOverflow, bind, Except.bind]
  by_cases hv : Word.max < s.voting + d.voting
  · simp [Pillar.all, get, ha, hv, Nat.not_lt.mp ha, Nat.not_le.mpr hv, pillarOverflow, bind,
      Except.bind]
  by_cases hf : Word.max < s.feedback + d.feedback
  · simp [Pillar.all, get, ha, hv, hf, Nat.not_lt.mp ha, Nat.not_lt.mp hv, Nat.not_le.mpr hf,
      pillarOverflow, bind, Except.bind]
  by_cases hc : Word.max < s.certification + d.certification
  · simp [Pillar.all, get, ha, hv, hf, hc, Nat.not_lt.mp ha, Nat.not_lt.mp hv, Nat.not_lt.mp hf,
      Nat.not_le.mpr hc, pillarOverflow, bind, Except.bind]
  simp [Pillar.all, get, ha, hv, hf, hc, Nat.not_lt.mp ha, Nat.not_lt.mp hv, Nat.not_lt.mp hf,
    Nat.not_lt.mp hc, bind, Except.bind, pure, Except.pure, plus]

/-- The composite: the weighted sum when it fits a word, else the composite's overflow. -/
theorem composite_eq (w s : Scores) :
    composite w s =
      if weighted w s ≤ Word.max then .ok (weighted w s) else .error compositeOverflow := by
  split
  · rename_i hle
    exact composite_eq_ok_iff.mpr ⟨hle, rfl⟩
  · rename_i hgt
    unfold composite
    rw [Word.weightedSum_eq]
    have hlen : (s.values.length != w.values.length) = false := rfl
    have hdot : ¬ Word.dot s.values w.values ≤ Word.max := hgt
    rw [if_neg (by simp [hlen]), if_neg hdot]
    rfl

end Scores

namespace Reputation

/-- A delta applied to a record under weights `w` at `now`: the overflow of the first pillar
that passes the word range, else the composite's overflow when the weighted sum passes it, else
the record with the pillarwise sum, its weighted sum and the new time. -/
theorem Account.applyDelta_eq (a : Account) (d w : Scores) (now : Instant) :
    a.applyDelta d w now =
      (a.scores.firstOverflow d).elim
        (if Scores.weighted w (a.scores.plus d) ≤ Word.max then
          .ok { a with scores := a.scores.plus d,
                       composite := Scores.weighted w (a.scores.plus d), updatedAt := now }
        else .error Scores.compositeOverflow)
        fun p => .error (Scores.pillarOverflow p) := by
  unfold Account.applyDelta
  rw [Scores.add_eq]
  cases a.scores.firstOverflow d with
  | some p => rfl
  | none =>
    simp only [Option.elim, bind, Except.bind, Scores.composite_eq]
    by_cases hfit : Scores.weighted w (a.scores.plus d) ≤ Word.max
    · simp only [hfit, if_true]
      rfl
    · simp only [hfit, if_false]

/-- Applying a delta succeeds exactly when every pillar's sum and the weighted sum of the new
scores fit a word. It then gives the record with the pillarwise sum, its weighted sum and the
new time, under the same account and registration time. Otherwise it fails with an overflow
that names the first pillar in composite order whose sum passes the range, or the composite
when every pillar fits; the failure carries no record, so the caller keeps the one it had. -/
theorem delta_applies_or_names_overflow (a : Account) (d w : Scores) (now : Instant) :
    ((∃ a', a.applyDelta d w now = .ok a') ↔
        (∀ p, a.scores.get p + d.get p ≤ Word.max) ∧
          Scores.weighted w (a.scores.plus d) ≤ Word.max) ∧
      (∀ a', a.applyDelta d w now = .ok a' →
        a'.scores = a.scores.plus d ∧ a'.composite = Scores.weighted w (a.scores.plus d) ∧
          a'.updatedAt = now ∧ a'.id = a.id ∧ a'.registeredAt = a.registeredAt) ∧
      (∀ e, a.applyDelta d w now = .error e →
        e.code = .overflow ∧
          (∀ p, a.scores.firstOverflow d = some p → e = Scores.pillarOverflow p) ∧
          (a.scores.firstOverflow d = none → e = Scores.compositeOverflow)) := by
  rw [Account.applyDelta_eq]
  cases hfirst : a.scores.firstOverflow d with
  | some p =>
    -- a pillar passes the range: the delta is refused, naming that pillar
    have hpast : ¬ ∀ q, a.scores.get q + d.get q ≤ Word.max := by
      intro hall
      have := Scores.firstOverflow_eq_none_iff.mpr fun q => by simpa using hall q
      rw [hfirst] at this
      cases this
    simp only [Option.elim, reduceCtorEq, exists_false, false_iff, not_and, Except.error.injEq,
      Option.some.injEq, false_implies, implies_true, and_true, true_and]
    refine ⟨fun hall => absurd hall hpast, ?_⟩
    rintro e rfl
    exact ⟨rfl, fun q hq => hq ▸ rfl⟩
  | none =>
    have hall : ∀ q, a.scores.get q + d.get q ≤ Word.max := fun q => by
      simpa using Scores.firstOverflow_eq_none_iff.mp hfirst q
    simp only [Option.elim, hall, implies_true, true_and, reduceCtorEq, false_implies,
      forall_const]
    split
    · rename_i hfit
      simp only [Except.ok.injEq, exists_eq', hfit, reduceCtorEq, false_implies, implies_true,
        and_true, true_and]
      rintro a' rfl
      exact ⟨rfl, rfl, rfl, rfl, rfl⟩
    · rename_i hgt
      simp only [reduceCtorEq, exists_false, hgt, false_implies, implies_true, Except.error.injEq,
        true_and]
      rintro e rfl
      exact ⟨rfl, rfl⟩

/-- A voting score already at the top of the range is named, though the attendance pillar that
comes first fits. -/
example :
    ({ id := ⟨"bob"⟩, scores := { voting := Word.max }, registeredAt := ⟨0⟩, updatedAt := ⟨0⟩ } :
      Account).applyDelta { attendance := 1, voting := 1 }
        { attendance := 30, voting := 25, feedback := 20, certification := 25 } ⟨0⟩ =
      .error (Scores.pillarOverflow .voting) := rfl

end Reputation

end CampusLedger
