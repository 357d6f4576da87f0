import Mathlib
import CampusLedger.Throttle.Window
import CampusLedger.Proofs.SettingsCounts
/-!
# Seconds until a throttled request may retry

A refused request is told how many whole seconds remain until its window frees a slot: the gap
from now to the reset time, held to the signed 64-bit range, rounded up to whole seconds, and
zero once the reset time has passed. The rounding adds a second less a nanosecond to the gap in
the signed word and divides, cutting toward zero.

That addition wraps when the gap is within a second of the top of the word. So the count is the
exact ceiling of the gap in seconds, or zero, for every gap up to 2^63 - 1 s, and a negative
count for every longer one. Windows that long are accepted: a window of 2^63 - 1 s less its
fraction (9223372036 s) gives such a gap on the first request.

Main statement: `retry_after_rounds_up_below_the_top`; the window of 9223372036 s is
`longest_window_retries_negative`.
-/

namespace CampusLedger

namespace Instant

/-- The bound of the signed 64-bit gaps, 2^63. -/
theorem pow_two_63 : Int.pow 2 63 = 9223372036854775808 := by decide

theorem pow_two_64 : Int.pow 2 64 = 18446744073709551616 := by decide

/-- A gap is held to the signed word: at least -2^63 and at most 2^63 - 1. -/
theorem since_bounds (t u : Instant) :
    -Int.pow 2 63 ≤ t.since u ∧ t.since u ≤ Int.pow 2 63 - 1 := by
  unfold since
  rw [pow_two_63]
  omega

/-- A sum within the signed word does not wrap. -/
theorem wrapGap_of_fits {n : Int} (hlo : -Int.pow 2 63 ≤ n) (hhi : n < Int.pow 2 63) :
    wrapGap n = n := by
  unfold wrapGap
  rw [pow_two_63, pow_two_64] at *
  omega

/-- A sum past the top of the signed word, by less than 2^64, wraps down by 2^64. -/
theorem wrapGap_of_past_top {n : Int} (hlo : Int.pow 2 63 ≤ n) (hhi : n < Int.pow 2 63 + Int.pow 2 64) :
    wrapGap n = n - Int.pow 2 64 := by
  unfold wrapGap
  rw [pow_two_63, pow_two_64] at *
  omega

end Instant

namespace Throttle

open Instant

/-- The largest gap whose rounding up stays within the signed word: 2^63 - 1 s. -/
def roundingTop : Int := Int.pow 2 63 - Instant.second

/-- Rounding a positive count of nanoseconds up to whole seconds is the ceiling of its exact
quotient. -/
theorem ceil_seconds_eq (g : Int) (hg : 0 < g) :
    ⌈(g : ℚ) / Instant.second⌉ = (g + Instant.second - 1).tdiv Instant.second := by
  have hsec : ((Instant.second : Int) : ℚ) = ((1000000000 : Nat) : ℚ) := by
    norm_num [Instant.second]
  rw [hsec, Rat.ceil_intCast_div_natCast, Int.tdiv_eq_ediv_of_nonneg (by unfold Instant.second; omega)]
  unfold Instant.second
  omega

/-- Dividing a sum that wrapped below zero gives a negative count. -/
theorem tdiv_second_neg {x : Int} (hx : x ≤ -Instant.second) : x.tdiv Instant.second < 0 := by
  have hpos : 0 ≤ -x := by unfold Instant.second at hx; omega
  have hneg : x.tdiv Instant.second = -((-x) / Instant.second) := by
    rw [← Int.tdiv_eq_ediv_of_nonneg hpos, Int.neg_tdiv, Int.neg_neg]
  rw [hneg]
  unfold Instant.second at *
  omega

/-- The count for a gap up to `roundingTop`: zero once the reset time has passed, else the
ceiling of the gap in seconds. -/
theorem retryAfter_of_le_top (d : Decision) (now : Instant)
    (h : d.resetAt.since now ≤ roundingTop) :
    d.retryAfter now = max 0 ⌈(d.resetAt.since now : ℚ) / Instant.second⌉ := by
  unfold Decision.retryAfter
  by_cases hgap : d.resetAt.since now ≤ 0
  · -- the reset time has passed: both sides are zero
    have hceil : ⌈(d.resetAt.since now : ℚ) / Instant.second⌉ ≤ 0 := by
      rw [Int.ceil_le, Int.cast_zero]
      apply div_nonpos_of_nonpos_of_nonneg
      · exact_mod_cast hgap
      · norm_num [Instant.second]
    rw [if_pos hgap, max_eq_left hceil]
  · have hpos : 0 < d.resetAt.since now := by omega
    have hlow := (Instant.since_bounds d.resetAt now).1
    have hfit : d.resetAt.since now + Instant.second - 1 < Int.pow 2 63 := by
      unfold roundingTop at h
      omega
    have hceil : 0 ≤ ⌈(d.resetAt.since now : ℚ) / Instant.second⌉ :=
      Int.ceil_nonneg (div_nonneg (by exact_mod_cast hpos.le) (by norm_num [Instant.second]))
    rw [if_neg hgap, wrapGap_of_fits (by unfold Instant.second; omega) hfit, max_eq_right hceil,
      ceil_seconds_eq _ hpos]

/-- A gap past `roundingTop` wraps when it is rounded up, and the count is negative. -/
theorem retryAfter_neg_of_top_lt (d : Decision) (now : Instant)
    (h : roundingTop < d.resetAt.since now) : d.retryAfter now < 0 := by
  have hhigh := (Instant.since_bounds d.resetAt now).2
  have hgap : ¬ d.resetAt.since now ≤ 0 := by
    unfold roundingTop at h
    rw [pow_two_63] at h
    unfold Instant.second at h
    omega
  have hpast : Int.pow 2 63 ≤ d.resetAt.since now + Instant.second - 1 := by
    unfold roundingTop at h
    omega
  have hbelow : d.resetAt.since now + Instant.second - 1 < Int.pow 2 63 + Int.pow 2 64 := by
    rw [pow_two_63, pow_two_64] at *
    unfold Instant.second
    omega
  unfold Decision.retryAfter
  rw [if_neg hgap, wrapGap_of_past_top hpast hbelow]
  apply tdiv_second_neg
  rw [pow_two_63, pow_two_64] at *
  unfold Instant.second at *
  omega

/-- The seconds until a refused request may retry are the exact ceiling of the gap to the reset
time in seconds, or zero once the reset time has passed, exactly when that gap is at most
2^63 - 1 s; for every longer gap, the rounding wraps in the signed word and the count is
negative. The gap is the saturated one, held to the signed 64-bit range. -/
theorem retry_after_rounds_up_below_the_top (d : Decision) (now : Instant) :
    (d.retryAfter now = max 0 ⌈(d.resetAt.since now : ℚ) / Instant.second⌉ ↔
        d.resetAt.since now ≤ Int.pow 2 63 - Instant.second) ∧
      (d.retryAfter now < 0 ↔ Int.pow 2 63 - Instant.second < d.resetAt.since now) := by
  have hsplit := le_or_gt (d.resetAt.since now) roundingTop
  constructor
  · constructor
    · intro heq
      rcases hsplit with hle | hlt
      · exact hle
      · -- a wrapped count is negative, while the ceiling is kept at zero or above
        have hneg := retryAfter_neg_of_top_lt d now hlt
        rw [heq] at hneg
        exact absurd hneg (not_lt.mpr (le_max_left _ _))
    · exact retryAfter_of_le_top d now
  · constructor
    · intro hneg
      rcases hsplit with hle | hlt
      · rw [retryAfter_of_le_top d now hle] at hneg
        exact absurd hneg (not_lt.mpr (le_max_left _ _))
      · exact hlt
    · exact retryAfter_neg_of_top_lt d now

/-- An environment whose rate-limit window is `2562047h47m16s`, 9223372036 s, the longest whole
number of seconds a signed 64-bit duration holds. -/
def longWindowEnvironment : Environment :=
  [("CCMS_CONTROLLER", "controller"), ("CCMS_ESCROW", "escrow"),
   ("RATE_LIMIT_WINDOW", "2562047h47m16s")]

theorem longWindow_settings_read :
    ∃ c, Settings.ofEnvironment longWindowEnvironment = .ok c ∧
      c.rate.window = Instant.secondsGap 9223372036 := by
  refine ⟨((Settings.read longWindowEnvironment).run []).1, ?_, by decide +kernel⟩
  rw [Settings.ofEnvironment_eq_ok_iff]
  constructor
  · have hquiet : ((Settings.read longWindowEnvironment).run []).2 = [] := by decide +kernel
    exact Prod.ext rfl hquiet
  · -- the brokers are split by a string function that does not evaluate in the kernel
    have hbrokers : ((Settings.read longWindowEnvironment).run []).1.stream.brokers =
        Text.distinctTrimmed ((longWindowEnvironment.get "KAFKA_BROKERS").splitOn ",") := rfl
    unfold Settings.violations
    rw [hbrokers, show longWindowEnvironment.get "KAFKA_BROKERS" = "" by decide +kernel,
      Settings.empty_splitOn_comma]
    decide +kernel

/-- The settings accept a rate-limit window of 9223372036 s. The first request of such a window
is allowed with its reset a full window away, and the count of seconds to retry is then
negative, although the ceiling of the gap is the window itself. -/
theorem longest_window_retries_negative :
    (∃ c, Settings.ofEnvironment longWindowEnvironment = .ok c ∧
        c.rate.window = Instant.secondsGap 9223372036) ∧
      ∃ d, (Window.allow {} "k" 1 (Instant.secondsGap 9223372036)
          (Instant.ofSeconds 1704067200)).1 = .ok d ∧
        d.retryAfter (Instant.ofSeconds 1704067200) = -9223372036 ∧
        ⌈(d.resetAt.since (Instant.ofSeconds 1704067200) : ℚ) / Instant.second⌉ = 9223372036 := by
  refine ⟨longWindow_settings_read,
    ⟨true, 1, 0, (Instant.ofSeconds 1704067200).addNanos 9223372036000000000⟩, rfl, ?_, ?_⟩
  · decide
  · have hgap : ((Instant.ofSeconds 1704067200).addNanos 9223372036000000000).since
        (Instant.ofSeconds 1704067200) = 9223372036000000000 := by decide
    rw [hgap, ceil_seconds_eq _ (by decide)]
    decide

end Throttle

end CampusLedger
