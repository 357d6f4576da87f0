import Mathlib
/-!
# Whole numbers in doubles

Metrics are doubles. A gauge that counts by adding and taking away whole numbers shows the
count exactly as long as every value it passes through stays below `2 ^ 53`: such numbers are
doubles, and so are their sums and differences, so binary64 rounding never has a bit to drop.

The proof goes through the logical model of `Float`. A positive whole number `k` has the
canonical form `whole k`: its bits shifted up to a 53-bit mantissa, at exponent
`log2 k - 52`. That form survives packing into 64 bits and unpacking again, `Float.ofNat`
produces it, and adding two of them (with either sign on the second) lines the mantissas up at
the smaller exponent, where the exact sum is again a whole number times a power of two, which
rounding turns back into canonical form.
-/

namespace CampusLedger.WholeFloat

open Float.Model Float.Model.UnpackedFloat

theorem shiftRight_exact (m r : Nat) :
    (⟨m * 2 ^ r, false, false⟩ : ExtendedMantissa) >>> r = ⟨m, false, false⟩ := by
  induction r generalizing m with
  | zero => simp [HShiftRight.hShiftRight, Nat.repeat]
  | succ r ih =>
    rw [show m * 2 ^ (r + 1) = m * 2 * 2 ^ r by ring]
    show ExtendedMantissa.shiftRightOne ((⟨m * 2 * 2 ^ r, false, false⟩ : ExtendedMantissa) >>> r) = _
    rw [ih]
    simp [ExtendedMantissa.shiftRightOne]

theorem log2_mul_two_pow {k : Nat} (hk : k ≠ 0) (j : Nat) : (k * 2 ^ j).log2 = k.log2 + j := by
  induction j with
  | zero => simp
  | succ j ih =>
    rw [show k * 2 ^ (j + 1) = 2 * (k * 2 ^ j) by ring, Nat.log2_two_mul (by positivity), ih]
    rfl

/-- A 53-bit mantissa, at an exponent no smaller than the least one, padded with `r` zero bits:
shifting to the target exponent takes off exactly the padding. -/
theorem shiftToTarget_normal {m : Nat} (hm : m.log2 = 52) {e : Int} (he : -1074 ≤ e) (r : Nat) :
    shiftToTargetExponent Format.binary64 (m * 2 ^ r) (e - r) .exact = (⟨m, false, false⟩, e) := by
  have hlog : (m * 2 ^ r).log2 = 52 + r := by
    rw [log2_mul_two_pow (by rintro rfl; simp at hm), hm]
  have ht : Format.binary64.targetExponent (totalExponent (m * 2 ^ r) (e - r)) = e := by
    simp only [Format.targetExponent, totalExponent, hlog, Format.mantissaBits, Format.minExponent]
    norm_num
    omega
  simp only [shiftToTargetExponent, shiftToExponent, ht, show (e - (e - r)).toNat = r by omega,
    ExtendedMantissa.ofMantissaAndAccuracy, shiftRight_exact]
  simp

theorem roundWithAccuracy_normal (s : Sign) {m : Nat} (hm : m.log2 = 52) {e : Int}
    (he : -1074 ≤ e) (r : Nat) (h : 0 < m) :
    roundWithAccuracy Format.binary64 s (m * 2 ^ r) (e - r) .exact = .finite s m e h := by
  -- the second shift, after rounding, starts from the unpadded mantissa
  have h0 := shiftToTarget_normal hm he 0
  simp only [pow_zero, Nat.mul_one, Nat.cast_zero, sub_zero] at h0
  simp only [roundWithAccuracy, shiftToTarget_normal hm he r, ExtendedMantissa.roundedMantissa,
    ExtendedMantissa.accuracy, Accuracy.roundToNearestEven, h0, Nat.ne_of_gt h, dite_false]

/-- The 53-bit mantissa of a positive whole number below `2 ^ 53`. -/
def mantissaOf (k : Nat) : Nat := k * 2 ^ (52 - k.log2)

theorem mantissaOf_pos {k : Nat} (hk : 0 < k) : 0 < mantissaOf k := by
  unfold mantissaOf; positivity

theorem log2_le_52 {k : Nat} (hk : 0 < k) (hk' : k < 2 ^ 53) : k.log2 ≤ 52 := by
  have := (Nat.log2_lt (Nat.ne_of_gt hk)).mpr hk'
  omega

theorem log2_mantissaOf {k : Nat} (hk : 0 < k) (hk' : k < 2 ^ 53) : (mantissaOf k).log2 = 52 := by
  have := log2_le_52 hk hk'
  rw [mantissaOf, log2_mul_two_pow (Nat.ne_of_gt hk)]
  omega

/-- A whole number below `2 ^ 53` as an unpacked double; zero is positive zero. -/
def whole (k : Nat) : UnpackedFloat :=
  if h : 0 < k then .finite .positive (mantissaOf k) (k.log2 - 52) (mantissaOf_pos h)
  else .zero .positive

theorem whole_pos {k : Nat} (h : 0 < k) :
    whole k = .finite .positive (mantissaOf k) (k.log2 - 52) (mantissaOf_pos h) := by
  simp [whole, h]

/-- A whole number times a power of two, at the opposite exponent, rounds to its canonical
form. -/
theorem round_whole (s : Sign) {k : Nat} (hk : 0 < k) (hk' : k < 2 ^ 53) (j : Nat) :
    UnpackedFloat.round Format.binary64 s (k * 2 ^ j) (-j) =
      .finite s (mantissaOf k) (k.log2 - 52) (mantissaOf_pos hk) := by
  have hL := log2_le_52 hk hk'
  have ht : Format.binary64.targetExponent (totalExponent (k * 2 ^ j) (-j)) = k.log2 - 52 := by
    simp only [Format.targetExponent, totalExponent, log2_mul_two_pow (Nat.ne_of_gt hk),
      Format.mantissaBits, Format.minExponent]
    norm_num
    omega
  -- fewer than `52 - log2 k` places are padded up; any more are left for the shift down
  have hdec : decreaseExponent (k * 2 ^ j) (-j) (k.log2 - 52) =
      (mantissaOf k * 2 ^ (j - (52 - k.log2)), (k.log2 - 52 : Int) - (j - (52 - k.log2) : Nat)) := by
    simp only [decreaseExponent, mantissaOf, Nat.shiftLeft_eq, Prod.mk.injEq]
    constructor
    · rw [show (-(j : Int) - (k.log2 - 52)).toNat = 52 - k.log2 - j by omega, Nat.mul_assoc,
        ← Nat.pow_add, Nat.mul_assoc, ← Nat.pow_add]
      congr 2
      omega
    · omega
  simp only [UnpackedFloat.round, ht, hdec]
  exact roundWithAccuracy_normal s (log2_mantissaOf hk hk') (by omega) _ _

theorem normalize_whole {n : Nat} (hn : n < 2 ^ 53) (j : Nat) :
    UnpackedFloat.normalize Format.binary64 ((n * 2 ^ j : Nat) : Int) (-j) .positive = whole n := by
  rcases Nat.eq_zero_or_pos n with rfl | h
  · rw [Nat.zero_mul]; rfl
  · have hc : compare ((n * 2 ^ j : Nat) : Int) 0 = .gt := by
      rw [compare_gt_iff_gt]; positivity
    simp only [UnpackedFloat.normalize, hc, Int.toNat_natCast]
    rw [round_whole .positive h hn, whole_pos h]

theorem ofNat_whole {k : Nat} (hk : k < 2 ^ 53) :
    UnpackedFloat.ofNat Format.binary64 k = whole k := by
  have h := normalize_whole hk 0
  simp only [pow_zero, Nat.mul_one, Nat.cast_zero, neg_zero] at h
  exact h

theorem unpackSign_packComponents {spec : Format} {sign exponent mantissa} :
    unpackSign (packComponents spec sign exponent mantissa) = sign.toBitVec := by
  ext i hi
  obtain rfl : i = 0 := by omega
  simp [unpackSign, packComponents, BitVec.getLsbD_append, ← BitVec.getLsbD_eq_getElem]

/-- A normal double reads back as it was packed. -/
theorem unpack_pack_normal (s : Sign) {m : Nat} (hm : m.log2 = 52) {e : Int} (he : -1074 ≤ e)
    (he' : e ≤ 971) (h : 0 < m) :
    (Float.Model.pack (.finite s m e h)).unpack = .finite s m e h := by
  unfold Float.Model.unpack Float.Model.pack
  simp only [UnpackedFloat.pack, Format.exponentBias, Format.binary64, Format.mantissaBits, hm]
  norm_num
  have hlo : 2 ^ 52 ≤ m := by have := Nat.log2_self_le (Nat.ne_of_gt h); rwa [hm] at this
  have hhi : m < 2 ^ 53 := by have := @Nat.lt_log2_self m; rwa [hm] at this
  rw [if_neg (by omega)]
  -- the biased exponent is neither all ones nor all zeros, and the implicit bit comes back
  have hexp : (BitVec.ofNat 11 (e + 1023 + 52).toNat).toNat = (e + 1023 + 52).toNat := by
    rw [BitVec.toNat_ofNat, Nat.mod_eq_of_lt (by omega)]
  have hne1 : BitVec.ofNat 11 (e + 1023 + 52).toNat ≠ -1#11 := by
    intro hc; have := congrArg BitVec.toNat hc; rw [hexp] at this; simp at this; omega
  have hne0 : BitVec.ofNat 11 (e + 1023 + 52).toNat ≠ 0#11 := by
    intro hc; have := congrArg BitVec.toNat hc; rw [hexp] at this; simp at this; omega
  have hlow : (BitVec.ofNat 52 m).toNat = m - 2 ^ 52 := by
    rw [BitVec.toNat_ofNat, Nat.mod_eq_sub_mod hlo, Nat.mod_eq_of_lt (by omega)]
  have hmant : (1#1 ++ BitVec.ofNat 52 m).toNat = m := by
    rw [BitVec.toNat_append, hlow, ← Nat.shiftLeft_add_eq_or_of_lt (by omega)]
    simp [Nat.shiftLeft_eq]
    omega
  simp only [UnpackedFloat.unpack, unpackExponent_packComponents, unpackMantissa_packComponents,
    unpackSign_packComponents, hne1, hne0, if_false, hmant, hexp]
  cases s <;> simp [Sign.ofBitVec, Sign.toBitVec, Format.exponentBias] <;> omega

theorem unpack_pack_finite (s : Sign) {k : Nat} (hk : 0 < k) (hk' : k < 2 ^ 53) :
    (Float.Model.pack (.finite s (mantissaOf k) (k.log2 - 52) (mantissaOf_pos hk))).unpack =
      .finite s (mantissaOf k) (k.log2 - 52) (mantissaOf_pos hk) := by
  have := log2_le_52 hk hk'
  exact unpack_pack_normal s (log2_mantissaOf hk hk') (by omega) (by omega) _

theorem unpack_pack_whole {k : Nat} (hk : k < 2 ^ 53) :
    (Float.Model.pack (whole k)).unpack = whole k := by
  rcases Nat.eq_zero_or_pos k with rfl | h
  · rfl
  · rw [whole_pos h]
    exact unpack_pack_finite .positive h hk

theorem unpack_pack_neg_whole {k : Nat} (hk : k < 2 ^ 53) :
    (Float.Model.pack (whole k).neg).unpack = (whole k).neg := by
  rcases Nat.eq_zero_or_pos k with rfl | h
  · rfl
  · rw [whole_pos h]
    exact unpack_pack_finite .negative h hk

theorem unpack_one :
    (Float.ofBits 0x3FF0000000000000).toModel.unpack =
      .finite .positive (2 ^ 52) (-52) (by decide) := by
  rfl

theorem mul_whole_one {k : Nat} (hk : k < 2 ^ 53) :
    UnpackedFloat.mul Format.binary64 (whole k) (.finite .positive (2 ^ 52) (-52) (by decide)) =
      whole k := by
  rcases Nat.eq_zero_or_pos k with rfl | h
  · rfl
  · have hL := log2_le_52 h hk
    rw [whole_pos h]
    show roundWithAccuracy Format.binary64 .positive (mantissaOf k * 2 ^ 52)
      ((k.log2 : Int) - 52 + -52) .exact = _
    rw [show (k.log2 : Int) - 52 + -52 = (k.log2 - 52 : Int) - (52 : Nat) by omega]
    exact roundWithAccuracy_normal .positive (log2_mantissaOf h hk) (by omega) 52 _

/-- Below `2 ^ 53`, `Float.ofNat` takes its fast path: the number as a double times `1.0`. -/
theorem ofNat_eq_pack {k : Nat} (hk : k < 2 ^ 53) :
    Float.ofNat k = .ofModel (.pack (whole k)) := by
  have hfast : k < 2 ^ 53 ∧ 0 ≤ 22 := ⟨hk, by decide⟩
  have hu : (UInt64.ofNat k).toNat = k := by
    rw [UInt64.toNat_ofNat']; omega
  have hp : Float.exactlyRepresentablePowersOfTen[0] = Float.ofBits 0x3FF0000000000000 := rfl
  simp only [Float.ofNat, OfScientific.ofScientific, Float.ofScientific, hfast,
    Bool.false_eq_true, if_false]
  show Float.ofModel (Float.Model.mul (Float.Model.ofUInt64 (UInt64.ofNat k)) _) = _
  simp only [Float.Model.mul, Float.Model.ofUInt64, UnpackedFloat.ofUInt64, hu, ofNat_whole hk,
    unpack_pack_whole hk]
  rw [hp, unpack_one, mul_whole_one hk]

theorem decrease_whole {a : Nat} (ha : 0 < a) (ha' : a < 2 ^ 53) {j : Nat}
    (hj : 52 - a.log2 ≤ j) :
    (decreaseExponent (mantissaOf a) (a.log2 - 52) (-j)).1 = a * 2 ^ j := by
  have := log2_le_52 ha ha'
  simp only [decreaseExponent, mantissaOf, Nat.shiftLeft_eq]
  rw [show ((a.log2 : Int) - 52 - -(j : Int)).toNat = j - (52 - a.log2) by omega, Nat.mul_assoc,
    ← Nat.pow_add]
  congr 2
  omega

/-- Two positive whole numbers, added with any signs, are lined up at the exponent of the
smaller one. -/
theorem add_finite_whole (s₁ s₂ : Sign) {a b : Nat} (ha : 0 < a) (hb : 0 < b) (ha' : a < 2 ^ 53)
    (hb' : b < 2 ^ 53) :
    UnpackedFloat.add Format.binary64
        (.finite s₁ (mantissaOf a) (a.log2 - 52) (mantissaOf_pos ha))
        (.finite s₂ (mantissaOf b) (b.log2 - 52) (mantissaOf_pos hb)) =
      UnpackedFloat.normalize Format.binary64
        (s₁.apply ((a * 2 ^ (52 - min a.log2 b.log2) : Nat) : Int) +
          s₂.apply ((b * 2 ^ (52 - min a.log2 b.log2) : Nat) : Int))
        (-((52 - min a.log2 b.log2 : Nat) : Int)) .positive := by
  have hLa := log2_le_52 ha ha'
  have hLb := log2_le_52 hb hb'
  have hmin : min ((a.log2 : Int) - 52) (b.log2 - 52) = -((52 - min a.log2 b.log2 : Nat) : Int) := by
    omega
  show UnpackedFloat.normalize Format.binary64
    (s₁.apply (decreaseExponent _ _ (min ((a.log2 : Int) - 52) (b.log2 - 52))).1 +
      s₂.apply (decreaseExponent _ _ (min ((a.log2 : Int) - 52) (b.log2 - 52))).1) _ _ = _
  rw [hmin, decrease_whole ha ha' (by omega), decrease_whole hb hb' (by omega)]

theorem add_whole {a b : Nat} (h : a + b < 2 ^ 53) :
    UnpackedFloat.add Format.binary64 (whole a) (whole b) = whole (a + b) := by
  rcases Nat.eq_zero_or_pos a with rfl | ha
  · rcases Nat.eq_zero_or_pos b with rfl | hb
    · rfl
    · rw [whole_pos hb, Nat.zero_add, whole_pos hb]; rfl
  rcases Nat.eq_zero_or_pos b with rfl | hb
  · rw [Nat.add_zero, whole_pos ha]; rfl
  have hsum : ∀ j, (((a * 2 ^ j : Nat) : Int) + ((b * 2 ^ j : Nat) : Int)) =
      (((a + b) * 2 ^ j : Nat) : Int) := fun j => by push_cast; ring
  rw [whole_pos ha, whole_pos hb, add_finite_whole _ _ ha hb (by omega) (by omega)]
  simp only [Sign.apply, hsum, normalize_whole h]

theorem add_whole_neg {a b : Nat} (hb : b ≤ a) (ha : a < 2 ^ 53) :
    UnpackedFloat.add Format.binary64 (whole a) (whole b).neg = whole (a - b) := by
  rcases Nat.eq_zero_or_pos b with rfl | hb0
  · rcases Nat.eq_zero_or_pos a with rfl | ha0
    · rfl
    · rw [whole_pos ha0, Nat.sub_zero, whole_pos ha0]; rfl
  have hdiff : ∀ j, (((a * 2 ^ j : Nat) : Int) + -((b * 2 ^ j : Nat) : Int)) =
      (((a - b) * 2 ^ j : Nat) : Int) := fun j => by
    rw [Nat.sub_mul, Nat.cast_sub (Nat.mul_le_mul_right _ hb)]; ring
  rw [whole_pos (by omega : 0 < a), whole_pos hb0]
  show UnpackedFloat.add _ _ (.finite .negative _ _ _) = _
  rw [add_finite_whole _ _ (by omega) hb0 ha (by omega)]
  simp only [Sign.apply, hdiff, normalize_whole (by omega : a - b < 2 ^ 53)]

/-- Whole numbers add exactly in doubles while the sum stays below `2 ^ 53`. -/
theorem ofNat_add_ofNat {a b : Nat} (h : a + b < 2 ^ 53) :
    Float.ofNat a + Float.ofNat b = Float.ofNat (a + b) := by
  rw [ofNat_eq_pack (by omega : a < 2 ^ 53), ofNat_eq_pack (by omega : b < 2 ^ 53), ofNat_eq_pack h]
  show Float.ofModel (Float.Model.add (.pack (whole a)) (.pack (whole b))) = _
  simp only [Float.Model.add, unpack_pack_whole (by omega : a < 2 ^ 53),
    unpack_pack_whole (by omega : b < 2 ^ 53), add_whole h]

/-- Taking a smaller whole number from one below `2 ^ 53` is exact in doubles. -/
theorem ofNat_add_neg_ofNat {a b : Nat} (hb : b ≤ a) (ha : a < 2 ^ 53) :
    Float.ofNat a + -Float.ofNat b = Float.ofNat (a - b) := by
  rw [ofNat_eq_pack ha, ofNat_eq_pack (by omega : b < 2 ^ 53),
    ofNat_eq_pack (by omega : a - b < 2 ^ 53)]
  show Float.ofModel (Float.Model.add (.pack (whole a)) (Float.Model.neg (.pack (whole b)))) = _
  simp only [Float.Model.add, Float.Model.neg, unpack_pack_whole (by omega : b < 2 ^ 53),
    unpack_pack_whole ha, unpack_pack_neg_whole (by omega : b < 2 ^ 53), add_whole_neg hb ha]

end CampusLedger.WholeFloat
