import Mathlib
import CampusLedger.Identifier
import CampusLedger.Word
import CampusLedger.Proofs.Utf8Codec
/-!
# Decimal numerals of words

A word travels to storage as its decimal numeral and comes back through `Numeric.scan`; an
asset identifier is read from the same numerals, less zero. A numeral here is what core's
digit reader `Nat.ofDigitChars` takes: a non-empty run of ASCII digits, with leading zeros
allowed, whose value is the one that reader gives.

Main statement: `stored_words_read_back` — the numeral of every word scans back to the word and
the numeral of every positive asset identifier reads back to it; a text or its octets scan
exactly when they are a numeral of a word, an asset identifier reads exactly when it is a
numeral of a positive word, an integer scans exactly when it is not negative, no value scans
as zero, and a refused scan keeps its target.

A signed numeral is a numeral after at most one sign, `+` or `-`. `parseInteger_eq_ok_iff`:
the signed reader of a width accepts exactly the signed numerals whose value lies in the
two's-complement range of that width, and gives that value.
-/

namespace CampusLedger.Decimal

/-- A text is a decimal numeral of `v`: a non-empty run of ASCII digits whose value is `v`. -/
def Numeral (s : String) (v : Nat) : Prop :=
  s.toList ≠ [] ∧ (∀ c ∈ s.toList, c.isDigit = true) ∧ Nat.ofDigitChars 10 s.toList 0 = v

/-- The value the reader accumulates is core's value of the digits. -/
theorem digitsValue_eq_ofDigitChars (acc : Nat) (cs : List Char) :
    digitsValue acc cs = Nat.ofDigitChars 10 cs acc := by
  induction cs generalizing acc with
  | nil => rfl
  | cons c cs ih =>
    have hstep : digitsValue acc (c :: cs) = digitsValue (10 * acc + (c.toNat - '0'.toNat)) cs := by
      rw [Nat.mul_comm]
      rfl
    rw [hstep, ih, Nat.ofDigitChars_cons]

/-- An unsigned numeral reads exactly when it is a numeral of a value within the width. -/
theorem readNatural_eq_ok_iff (bits : Nat) (s : String) (v : Nat) :
    readNatural bits s = .ok v ↔ Numeral s v ∧ v ≤ wordBound bits := by
  unfold readNatural Numeral
  by_cases hs : s.toList = []
  · have he : s.isEmpty = true := by
      rw [String.isEmpty_iff, ← String.toList_inj, hs, String.toList_empty]
    simp [he, hs]
  · have he : s.isEmpty = false := by
      rw [Bool.eq_false_iff, ne_eq, String.isEmpty_iff, ← String.toList_inj, String.toList_empty]
      exact hs
    rw [if_neg (by simp [he]), readDigits_ok_iff _ _ _ _ (Nat.zero_le _),
      digitsValue_eq_ofDigitChars]
    constructor
    · rintro ⟨hd, hle, rfl⟩
      exact ⟨⟨hs, hd, rfl⟩, hle⟩
    · rintro ⟨⟨-, hd, rfl⟩, hle⟩
      exact ⟨hd, hle, rfl⟩

/-- Naming the reader on refusal changes no value that reads. -/
theorem parseNatural_eq_ok_iff_readNatural (bits : Nat) (s : String) (v : Nat) :
    parseNatural bits s = .ok v ↔ readNatural bits s = .ok v := by
  unfold parseNatural
  cases readNatural bits s <;> simp [Except.mapError]

/-- The decimal numeral of a number is a numeral of it. -/
theorem numeral_showNatural (n : Nat) : Numeral (showNatural n) n := by
  have hdigits : (showNatural n).toList = Nat.toDigits 10 n := by
    rw [showNatural, Nat.toString_eq_repr, Nat.toList_repr]
  rw [Numeral, hdigits]
  exact ⟨Nat.toDigits_ne_nil, fun c hc => Nat.isDigit_of_mem_toDigits (by decide) (by decide) hc,
    Nat.ofDigitChars_ten_toDigits⟩

/-- A text is a signed numeral of `n`: a numeral of its magnitude, after a `+` or nothing when
`n` is not negative, or after a `-` when it is not positive. -/
def SignedNumeral (s : String) (n : Int) : Prop :=
  ∃ ds : String, Numeral ds n.natAbs ∧
    (s = ds ∧ 0 ≤ n ∨ s = "+" ++ ds ∧ 0 ≤ n ∨ s = "-" ++ ds ∧ n ≤ 0)

section Signs

variable {bits : Nat} {s : String} {rest : List Char} {n : Int}

/-- A text that starts with a character other than a digit is no numeral. -/
theorem not_numeral_of_head {c : Char} (hc : c.isDigit = false) (h : s.toList = c :: rest)
    (v : Nat) : ¬ Numeral s v := by
  rintro ⟨-, hdigits, -⟩
  have := hdigits c (by rw [h]; exact List.mem_cons_self)
  rw [hc] at this
  cases this

theorem signedNumeral_of_plus (h : s.toList = '+' :: rest) :
    SignedNumeral s n ↔ Numeral (String.ofList rest) n.natAbs ∧ 0 ≤ n := by
  constructor
  · rintro ⟨ds, hnum, ⟨rfl, -⟩ | ⟨rfl, hn⟩ | ⟨rfl, -⟩⟩
    · exact absurd hnum (not_numeral_of_head (by decide) h _)
    · have hds : ds = String.ofList rest := by
        rw [← String.toList_inj, String.toList_ofList]
        simpa using h
      exact ⟨hds ▸ hnum, hn⟩
    · simp at h
  · rintro ⟨hnum, hn⟩
    refine ⟨String.ofList rest, hnum, .inr (.inl ⟨?_, hn⟩)⟩
    rw [← String.toList_inj]
    simpa using h

theorem signedNumeral_of_minus (h : s.toList = '-' :: rest) :
    SignedNumeral s n ↔ Numeral (String.ofList rest) n.natAbs ∧ n ≤ 0 := by
  constructor
  · rintro ⟨ds, hnum, ⟨rfl, -⟩ | ⟨rfl, -⟩ | ⟨rfl, hn⟩⟩
    · exact absurd hnum (not_numeral_of_head (by decide) h _)
    · simp at h
    · have hds : ds = String.ofList rest := by
        rw [← String.toList_inj, String.toList_ofList]
        simpa using h
      exact ⟨hds ▸ hnum, hn⟩
  · rintro ⟨hnum, hn⟩
    refine ⟨String.ofList rest, hnum, .inr (.inr ⟨?_, hn⟩)⟩
    rw [← String.toList_inj]
    simpa using h

theorem signedNumeral_of_unsigned (hp : ∀ rest, s.toList ≠ '+' :: rest)
    (hm : ∀ rest, s.toList ≠ '-' :: rest) :
    SignedNumeral s n ↔ Numeral s n.natAbs ∧ 0 ≤ n := by
  constructor
  · rintro ⟨ds, hnum, ⟨rfl, hn⟩ | ⟨rfl, -⟩ | ⟨rfl, -⟩⟩
    · exact ⟨hnum, hn⟩
    · exact absurd (by simp) (hp ds.toList)
    · exact absurd (by simp) (hm ds.toList)
  · rintro ⟨hnum, hn⟩
    exact ⟨s, hnum, .inl ⟨rfl, hn⟩⟩

/-- The non-negative half of a signed range fits the unsigned word of the same width. -/
theorem cutoff_le_wordBound (hbits : 0 < bits) : Nat.pow 2 (bits - 1) ≤ wordBound bits := by
  have hsplit : Nat.pow 2 bits = 2 * Nat.pow 2 (bits - 1) := by
    simp only [Nat.pow_eq]
    conv_lhs => rw [show bits = bits - 1 + 1 by omega]
    rw [Nat.pow_succ, Nat.mul_comm]
  have hpos : 0 < Nat.pow 2 (bits - 1) := Nat.two_pow_pos (bits - 1)
  unfold wordBound
  omega

/-- A magnitude read within the bound its sign allows is a numeral of the signed value: below
the cutoff without a minus, up to it with one. -/
theorem read_within_sign_iff {cutoff : Nat} (hcut : cutoff ≤ wordBound bits) (hpos : 0 < cutoff)
    (t : String) (negative : Bool) (n : Int) :
    (∃ v, readNatural bits t = .ok v ∧
        if negative then v ≤ cutoff ∧ n = -v else v < cutoff ∧ n = v) ↔
      Numeral t n.natAbs ∧ (if negative then n ≤ 0 else 0 ≤ n) ∧
        -(cutoff : Int) ≤ n ∧ n < cutoff := by
  simp only [readNatural_eq_ok_iff]
  cases negative with
  | false =>
    simp only [Bool.false_eq_true, if_false]
    constructor
    · rintro ⟨v, ⟨hnum, -⟩, hlt, rfl⟩
      exact ⟨by simpa using hnum, by omega, by omega, by omega⟩
    · rintro ⟨hnum, hn, -, hhi⟩
      exact ⟨n.natAbs, ⟨hnum, by omega⟩, by omega, by omega⟩
  | true =>
    simp only [if_true]
    constructor
    · rintro ⟨v, ⟨hnum, -⟩, hle, rfl⟩
      exact ⟨by simpa using hnum, by omega, by omega, by omega⟩
    · rintro ⟨hnum, hn, hlo, -⟩
      exact ⟨n.natAbs, ⟨hnum, by omega⟩, by omega, by omega⟩

/-- The signed reader of a width accepts exactly the signed numerals whose value lies in the
two's-complement range of that width, and gives that value. -/
theorem parseInteger_eq_ok_iff (hbits : 0 < bits) (s : String) (n : Int) :
    parseInteger bits s = .ok n ↔
      SignedNumeral s n ∧ -(Nat.pow 2 (bits - 1) : Int) ≤ n ∧
        n < (Nat.pow 2 (bits - 1) : Int) := by
  have hcut := cutoff_le_wordBound hbits
  have hpos : 0 < Nat.pow 2 (bits - 1) := Nat.two_pow_pos (bits - 1)
  unfold parseInteger
  extract_lets cs cutoff
  have hcs : cs = s.toList := rfl
  clear_value cs
  split
  next negative digits hsign =>
  calc _ ↔ ∃ v, readNatural bits (String.ofList digits) = .ok v ∧
          if negative then v ≤ cutoff ∧ n = -v else v < cutoff ∧ n = v := by
        -- the digits after the sign are read once; the sign only bounds the magnitude
        split
        · next hv => simp only [hv, reduceCtorEq, false_and, exists_false]
        · next hv => simp only [hv, reduceCtorEq, false_and, exists_false]
        · next v hv =>
          simp only [hv, Except.ok.injEq, exists_eq_left']
          cases negative with
          | false =>
            simp only [Bool.not_false, Bool.true_and, Bool.false_and, Bool.false_eq_true, if_false,
              decide_eq_true_eq]
            split_ifs <;> simp only [Except.ok.injEq, false_iff, not_and] <;> omega
          | true =>
            simp only [Bool.not_true, Bool.true_and, Bool.false_and, Bool.false_eq_true, if_false,
              if_true, decide_eq_true_eq]
            split_ifs <;> simp only [Except.ok.injEq, false_iff, not_and] <;> omega
    _ ↔ _ := by
        rw [read_within_sign_iff hcut hpos]
        split at hsign
        · next rest =>
          obtain ⟨rfl, rfl⟩ := Prod.mk.inj hsign
          simp only [signedNumeral_of_plus hcs.symm, and_assoc, Bool.false_eq_true, if_false]
        · next rest =>
          obtain ⟨rfl, rfl⟩ := Prod.mk.inj hsign
          simp only [signedNumeral_of_minus hcs.symm, and_assoc, if_true]
        · next hp hm =>
          obtain ⟨rfl, rfl⟩ := Prod.mk.inj hsign
          subst hcs
          simp only [signedNumeral_of_unsigned hp hm, and_assoc, String.ofList_toList,
            Bool.false_eq_true, if_false]

end Signs

end CampusLedger.Decimal

namespace CampusLedger

open Decimal Text

/-- Decimal text scans exactly when it is a numeral of a word. -/
theorem Numeric.scan_text_eq_ok_iff (t : Nat) (s : String) (v : Nat) :
    Numeric.scan t (.text s) = .ok v ↔ Numeral s v ∧ v ≤ Word.max := by
  have hword : Word.max = wordBound 64 := rfl
  rw [hword, ← readNatural_eq_ok_iff, ← parseNatural_eq_ok_iff_readNatural]
  simp only [Numeric.scan]
  cases parseNatural 64 s <;> simp

/-- Octets that decode to digits only are well formed: an octet that starts no character
decodes to the replacement character, which is no digit. -/
theorem Text.Utf8.valid_of_decode_digits {bs : List UInt8}
    (h : ∀ c ∈ Utf8.decode bs, c.isDigit = true) : Utf8.valid bs = true := by
  induction bs using Utf8.decode.induct with
  | case1 => simp [Utf8.valid]
  | case2 a rest ih =>
    rw [Utf8.decode] at h
    have hhead := h _ List.mem_cons_self
    have hwidth : Utf8.width (a :: rest) ≠ 0 := by
      intro h0
      simp [Utf8.step, h0, Utf8.replacement] at hhead
    have hstep : (Utf8.step a rest).2 = rest.drop (Utf8.width (a :: rest) - 1) := by
      simp [Utf8.step, hwidth]
    rw [Utf8.valid]
    simp only [Bool.and_eq_true, bne_iff_ne, ne_eq]
    refine ⟨hwidth, ?_⟩
    rw [← hstep]
    exact ih fun c hc => h c (List.mem_cons_of_mem _ hc)

theorem Text.Utf8.toText_ofText (s : String) : Utf8.toText (Utf8.ofText s) = s := by
  rw [Utf8.toText, Utf8.decode_ofText, String.ofList_toList]

/-- Octets scan exactly when they are the octets of a numeral of a word; octets that spell no
text never scan. -/
theorem Numeric.scan_octets_eq_ok_iff (t : Nat) (bs : List UInt8) (v : Nat) :
    Numeric.scan t (.octets bs) = .ok v ↔ ∃ s, Utf8.ofText s = bs ∧ Numeral s v ∧ v ≤ Word.max := by
  have hword : Word.max = wordBound 64 := rfl
  have hscan : Numeric.scan t (.octets bs) = .ok v ↔ Numeral (Utf8.toText bs) v ∧ v ≤ Word.max := by
    rw [hword, ← readNatural_eq_ok_iff, ← parseNatural_eq_ok_iff_readNatural]
    simp only [Numeric.scan]
    cases parseNatural 64 (Utf8.toText bs) <;> simp
  rw [hscan]
  constructor
  · rintro ⟨hnum, hle⟩
    -- the decoded text is all digits, so the octets are well formed and spell it
    have hvalid : Utf8.valid bs = true :=
      Utf8.valid_of_decode_digits fun c hc => hnum.2.1 c (by rwa [Utf8.toText, String.toList_ofList])
    refine ⟨Utf8.toText bs, ?_, hnum, hle⟩
    rw [Utf8.ofText_eq_flatMap, Utf8.toText, String.toList_ofList, Utf8.encode_decode bs hvalid]
  · rintro ⟨s, rfl, hnum, hle⟩
    rw [Utf8.toText_ofText]
    exact ⟨hnum, hle⟩

/-- An integer scans exactly when it is not negative, and then as itself. -/
theorem Numeric.scan_integer_eq_ok_iff (t : Nat) (v : Int) (w : Nat) :
    Numeric.scan t (.integer v) = .ok w ↔ 0 ≤ v ∧ w = v.toNat := by
  unfold Numeric.scan
  by_cases hv : v < 0
  · simp only [hv, if_true, reduceCtorEq, false_iff, not_and]
    omega
  · simp only [hv, if_false, Except.ok.injEq]
    omega

/-- A refused scan hands back its target as it was. -/
theorem Numeric.scan_error_keeps_target {t t' : Nat} {src : NumericSource} {m : String}
    (h : Numeric.scan t src = .error (m, t')) : t' = t := by
  cases src with
  | absent => cases h
  | integer v =>
    simp only [Numeric.scan] at h
    split at h
    · cases h
      rfl
    · cases h
  | text s =>
    simp only [Numeric.scan] at h
    split at h
    · cases h
    · cases h
      rfl
  | octets bs =>
    simp only [Numeric.scan] at h
    split at h
    · cases h
    · cases h
      rfl
  | other name =>
    cases h
    rfl

/-- An asset identifier reads exactly when its text is a numeral of a positive word. -/
theorem AssetId.ofText_eq_ok_iff (s : String) (a : AssetId) :
    AssetId.ofText s = .ok a ↔ Numeral s a.id ∧ 0 < a.id ∧ a.id ≤ Word.max := by
  have hread := readNatural_eq_ok_iff 64 s a.id
  unfold AssetId.ofText
  split
  · rename_i e he
    simp only [reduceCtorEq, false_iff, not_and]
    intro hn _ hle
    rw [hread.mpr ⟨hn, hle⟩] at he
    cases he
  · rename_i h0
    simp only [reduceCtorEq, false_iff, not_and]
    intro hn hpos hle
    have hzero : a.id = 0 := Except.ok.inj ((hread.mpr ⟨hn, hle⟩).symm.trans h0)
    omega
  · rename_i n hn0 hn
    obtain ⟨hnum, hle⟩ := (readNatural_eq_ok_iff 64 s n).mp hn
    constructor
    · rintro ⟨⟩
      exact ⟨hnum, Nat.pos_of_ne_zero hn0, hle⟩
    · rintro ⟨hnum', -, -⟩
      -- a text is a numeral of one value only, the one its digits give
      have : a.id = n := hnum'.2.2.symm.trans hnum.2.2
      cases a
      subst this
      rfl

/-- Words stored as decimal text read back. The numeral of every word scans back to the word,
as text and as octets, and the numeral of every positive asset identifier reads back to it. A
text scans exactly when it is a non-empty run of ASCII digits whose value is a word, and then to
that value; octets scan exactly when they are the octets of such a text, so octets that spell no
text never scan; an asset identifier reads exactly when its text is such a run of a positive
value. An integer scans exactly when it is not negative, no value scans as zero, and
every refused scan leaves its target as it was. -/
theorem stored_words_read_back :
    (∀ (n : UInt64) (t : Nat), Numeric.scan t (.text (Numeric.value n.toNat)) = .ok n.toNat ∧
        Numeric.scan t (.octets (Utf8.ofText (Numeric.value n.toNat))) = .ok n.toNat) ∧
      (∀ n : UInt64, n ≠ 0 → AssetId.ofText (AssetId.toText ⟨n.toNat⟩) = .ok ⟨n.toNat⟩) ∧
      (∀ (t : Nat) (s : String) (v : Nat),
        Numeric.scan t (.text s) = .ok v ↔ Numeral s v ∧ v ≤ Word.max) ∧
      (∀ (t : Nat) (bs : List UInt8) (v : Nat),
        Numeric.scan t (.octets bs) = .ok v ↔
          ∃ s, Utf8.ofText s = bs ∧ Numeral s v ∧ v ≤ Word.max) ∧
      (∀ (s : String) (a : AssetId),
        AssetId.ofText s = .ok a ↔ Numeral s a.id ∧ 0 < a.id ∧ a.id ≤ Word.max) ∧
      (∀ (t : Nat) (v : Int) (w : Nat),
        Numeric.scan t (.integer v) = .ok w ↔ 0 ≤ v ∧ w = v.toNat) ∧
      (∀ t : Nat, Numeric.scan t .absent = .ok 0) ∧
      (∀ (t t' : Nat) (src : NumericSource) (m : String),
        Numeric.scan t src = .error (m, t') → t' = t) := by
  have hword (n : UInt64) : n.toNat ≤ Word.max := by
    have := n.toNat_lt
    unfold Word.max
    simp only [Nat.pow_eq] at *
    omega
  refine ⟨fun n t => ?_, fun n hn => ?_, Numeric.scan_text_eq_ok_iff, Numeric.scan_octets_eq_ok_iff,
    AssetId.ofText_eq_ok_iff, Numeric.scan_integer_eq_ok_iff, fun _ => rfl,
    fun _ _ _ _ h => Numeric.scan_error_keeps_target h⟩
  · have hnum := numeral_showNatural n.toNat
    exact ⟨(Numeric.scan_text_eq_ok_iff t _ _).mpr ⟨hnum, hword n⟩,
      (Numeric.scan_octets_eq_ok_iff t _ _).mpr ⟨_, rfl, hnum, hword n⟩⟩
  · have hpos : 0 < n.toNat := by
      rw [Nat.pos_iff_ne_zero, Ne, ← UInt64.toNat_zero, UInt64.toNat_inj]
      exact hn
    exact (AssetId.ofText_eq_ok_iff _ _).mpr ⟨numeral_showNatural n.toNat, hpos, hword n⟩

/-- The largest asset identifier reads back from its numeral. -/
theorem largest_asset_reads_back :
    (18446744073709551615 : UInt64) ≠ 0 ∧
      AssetId.ofText (AssetId.toText ⟨(18446744073709551615 : UInt64).toNat⟩) =
        .ok ⟨(18446744073709551615 : UInt64).toNat⟩ :=
  ⟨by decide, stored_words_read_back.2.1 _ (by decide)⟩

end CampusLedger
