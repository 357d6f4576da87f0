import Mathlib
import CampusLedger.Word
/-!
# Exact word arithmetic

The ledger adds and weighs 64-bit words through 256-bit intermediates, with the operations of
a word library that wrap modulo 2^256 and raise a flag when a carry is lost. For every library
that does, the flags and the final test for 64 bits together make both operations exact: the
answer is the true sum when it fits a word and an overflow otherwise. The model's numbers are
unbounded, so this holds of any naturals, words among them.

Main statement: `word_sums_are_exact`.
-/

namespace CampusLedger.Word

/-- The exact sum of the pairwise products, as the sum of the zipped products. -/
theorem dot_eq_sum_zipWith (vs ws : List Nat) :
    dot vs ws = (List.zipWith (· * ·) vs ws).sum := by
  induction vs generalizing ws with
  | nil => rfl
  | cons v vs ih =>
    cases ws with
    | nil => rfl
    | cons w ws =>
      have hdot : dot (v :: vs) (w :: ws) = v * w + dot vs ws := rfl
      rw [hdot, ih ws, List.zipWith_cons_cons, List.sum_cons]

variable {u : Wide.Ops}

/-- The wide total of a weighted sum is never a wrapped value: when no flag is raised it is
the exact sum. -/
theorem wideTotal_some (hu : u.Lawful) {vs ws : List Nat} {t : Nat}
    (h : wideTotal u 0 vs ws = some t) : t = dot vs ws := by
  rw [wideTotal_eq hu vs ws (Nat.lt_of_le_of_lt (Nat.zero_le _) max_lt_modulus), Nat.zero_add] at h
  split at h
  · exact (Option.some.inj h).symm
  · cases h

/-- A flag is raised only when the exact sum passes the modulus, so far past `max`. -/
theorem wideTotal_none (hu : u.Lawful) {vs ws : List Nat} (h : wideTotal u 0 vs ws = none) :
    max < dot vs ws := by
  rw [wideTotal_eq hu vs ws (Nat.lt_of_le_of_lt (Nat.zero_le _) max_lt_modulus), Nat.zero_add] at h
  split at h
  · cases h
  · rename_i hpast
    have hlt := max_lt_modulus
    omega

/-- Sums of words are exact or refused, with any 256-bit operations that wrap modulo 2^256 and
flag a lost carry. A weighted sum is refused for lists of different lengths; otherwise it is the
exact sum of the pairwise products when that fits a word and an overflow when it does not. Its
256-bit running total never holds a wrapped value, and raises a flag only when the exact sum is
past the word range. The sum of two words is likewise exact when it fits a word and an overflow
otherwise. -/
theorem word_sums_are_exact (hu : u.Lawful) (values weights : List Nat) (a b : Nat) :
    weightedSumWith u values weights =
        (if values.length = weights.length then
          if (List.zipWith (· * ·) values weights).sum ≤ max then
            .ok (List.zipWith (· * ·) values weights).sum
          else .error (.arith .overflow)
        else .error (.note "weighted sum: length mismatch")) ∧
      (∀ t, wideTotal u 0 values weights = some t →
        t = (List.zipWith (· * ·) values weights).sum) ∧
      (wideTotal u 0 values weights = none → max < (List.zipWith (· * ·) values weights).sum) ∧
      addWith u a b = if a + b ≤ max then .ok (a + b) else .error .overflow := by
  rw [← dot_eq_sum_zipWith]
  refine ⟨?_, fun t ht => wideTotal_some hu ht, wideTotal_none hu, addWith_eq hu a b⟩
  rw [weightedSumWith_eq hu]
  by_cases hlen : values.length = weights.length
  · simp only [hlen, bne_self_eq_false, Bool.false_eq_true, if_false, if_true]
  · simp only [hlen, bne_iff_ne, ne_eq, not_false_eq_true, if_true, if_false]

/-- Two halves of the word range add up past it, with the operations the ledgers run with. -/
theorem word_halves_overflow_with_uint256 :
    Wide.uint256.Lawful ∧
      weightedSumWith Wide.uint256 [Nat.pow 2 63, Nat.pow 2 63] [1, 1] =
        (if [Nat.pow 2 63, Nat.pow 2 63].length = [1, 1].length then
          if (List.zipWith (· * ·) [Nat.pow 2 63, Nat.pow 2 63] [1, 1]).sum ≤ max then
            .ok (List.zipWith (· * ·) [Nat.pow 2 63, Nat.pow 2 63] [1, 1]).sum
          else .error (.arith .overflow)
        else .error (.note "weighted sum: length mismatch")) ∧
      (∀ t, wideTotal Wide.uint256 0 [Nat.pow 2 63, Nat.pow 2 63] [1, 1] = some t →
        t = (List.zipWith (· * ·) [Nat.pow 2 63, Nat.pow 2 63] [1, 1]).sum) ∧
      (wideTotal Wide.uint256 0 [Nat.pow 2 63, Nat.pow 2 63] [1, 1] = none →
        max < (List.zipWith (· * ·) [Nat.pow 2 63, Nat.pow 2 63] [1, 1]).sum) ∧
      addWith Wide.uint256 (Nat.pow 2 63) (Nat.pow 2 63) =
        if Nat.pow 2 63 + Nat.pow 2 63 ≤ max then .ok (Nat.pow 2 63 + Nat.pow 2 63)
        else .error .overflow :=
  ⟨Wide.uint256_lawful, word_sums_are_exact Wide.uint256_lawful _ _ _ _⟩

example : weightedSum [Nat.pow 2 63, Nat.pow 2 63] [1, 1] = .error (.arith .overflow) := rfl

end CampusLedger.Word
