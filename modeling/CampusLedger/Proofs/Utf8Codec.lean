import Mathlib
import CampusLedger.Text.Utf8
/-!
# Decoding inverts UTF-8 encoding

The lenient decoder of `Text.Utf8` reads one character at a time: the width of the well-formed
character at the head of the octets, its code point, and the octets after it. Against it stands
core's encoder `String.utf8EncodeChar`, which is how every text is laid out in octets.

Each of the four widths is taken on its own. Encoding a character and reading it back gives the
character and the octets after it (`step_encode_append`); a well-formed head is the encoding of
the character it reads as (`encode_of_width`). From the two, by induction on the octets:
decoding an encoding gives the characters back, the octets are well formed exactly when they
are the octets of some text, and then encoding what they decode to gives the octets back.

Main statements: `decode_encode`, `encode_decode`, `valid_iff_exists_text`, `decode_ofText`.
-/

namespace CampusLedger.Text.Utf8

theorem toList_loop_eq (bs : ByteArray) (i : Nat) (r : List UInt8) :
    ByteArray.toList.loop bs i r = r.reverse ++ bs.data.toList.drop i := by
  induction i, r using ByteArray.toList.loop.induct bs with
  | case1 i r hlt ih =>
    rw [ByteArray.toList.loop, if_pos hlt, ih]
    have hi : i < bs.data.toList.length := by simpa using hlt
    have hget : bs.get! i = bs.data.toList[i] := by
      simp only [ByteArray.get!, Array.getElem_toList]
      exact getElem!_pos bs.data i (by simpa using hlt)
    rw [List.drop_eq_getElem_cons hi, hget]
    simp
  | case2 i r hge =>
    rw [ByteArray.toList.loop, if_neg hge]
    have hend : bs.data.toList.length ≤ i := by simpa using hge
    simp [List.drop_eq_nil_of_le hend]

theorem byteArray_toList_eq (bs : ByteArray) : bs.toList = bs.data.toList := by
  rw [ByteArray.toList, toList_loop_eq]
  simp

/-- The octets of a text are the encodings of its characters, one after another. -/
theorem ofText_eq_flatMap (s : String) : ofText s = s.toList.flatMap String.utf8EncodeChar := by
  rw [ofText, String.toUTF8_eq_toByteArray, ← String.utf8Encode_toList, List.utf8Encode,
    byteArray_toList_eq, List.toList_data_toByteArray]

theorem isTail_iff (b : UInt8) : isTail b = true ↔ 0x80 ≤ b.toNat ∧ b.toNat ≤ 0xBF := by
  simp [isTail, UInt8.le_iff_toNat_le]

@[simp] theorem codePoint_one (a : UInt8) (rest : List UInt8) :
    codePoint 1 (a :: rest) = a.toNat := by
  rcases rest with _ | ⟨b, _ | ⟨c, _ | ⟨d, rest⟩⟩⟩ <;> rfl

@[simp] theorem codePoint_two (a b : UInt8) (rest : List UInt8) :
    codePoint 2 (a :: b :: rest) = a.toNat % 32 * 64 + payload b := by
  rcases rest with _ | ⟨c, _ | ⟨d, rest⟩⟩ <;> rfl

@[simp] theorem codePoint_three (a b c : UInt8) (rest : List UInt8) :
    codePoint 3 (a :: b :: c :: rest) = a.toNat % 16 * 4096 + payload b * 64 + payload c := by
  rcases rest with _ | ⟨d, rest⟩ <;> rfl

@[simp] theorem codePoint_four (a b c d : UInt8) (rest : List UInt8) :
    codePoint 4 (a :: b :: c :: d :: rest) =
      a.toNat % 8 * 262144 + payload b * 4096 + payload c * 64 + payload d := rfl

theorem toNat_ofNat_of_valid {n : Nat} (h : n.isValidChar) : (Char.ofNat n).toNat = n := by
  rw [Char.toNat_ofNat, if_pos h]

/-- A character's code point is at most U+10FFFF and no surrogate. -/
theorem toNat_bounds (c : Char) : c.toNat ≤ 0x10FFFF ∧ ¬(0xD800 ≤ c.toNat ∧ c.toNat ≤ 0xDFFF) :=
  ⟨Char.toNat_le_max c, Char.toNat_not_surrogate c⟩

theorem utf8EncodeChar_one {c : Char} (h : c.toNat ≤ 0x7f) :
    String.utf8EncodeChar c = [UInt8.ofNat c.toNat] := by
  unfold String.utf8EncodeChar
  simp only [Char.toNat_val]
  rw [if_pos h]

theorem utf8EncodeChar_two {c : Char} (h1 : 0x7f < c.toNat) (h2 : c.toNat ≤ 0x7ff) :
    String.utf8EncodeChar c =
      [UInt8.ofNat (c.toNat / 64 % 32 + 0xc0), UInt8.ofNat (c.toNat % 64 + 0x80)] := by
  unfold String.utf8EncodeChar
  simp only [Char.toNat_val]
  rw [if_neg (by omega), if_pos h2]

theorem utf8EncodeChar_three {c : Char} (h1 : 0x7ff < c.toNat) (h2 : c.toNat ≤ 0xffff) :
    String.utf8EncodeChar c =
      [UInt8.ofNat (c.toNat / 4096 % 16 + 0xe0), UInt8.ofNat (c.toNat / 64 % 64 + 0x80),
        UInt8.ofNat (c.toNat % 64 + 0x80)] := by
  unfold String.utf8EncodeChar
  simp only [Char.toNat_val]
  rw [if_neg (by omega), if_neg (by omega), if_pos h2]

theorem utf8EncodeChar_four {c : Char} (h1 : 0xffff < c.toNat) :
    String.utf8EncodeChar c =
      [UInt8.ofNat (c.toNat / 262144 % 8 + 0xf0), UInt8.ofNat (c.toNat / 4096 % 64 + 0x80),
        UInt8.ofNat (c.toNat / 64 % 64 + 0x80), UInt8.ofNat (c.toNat % 64 + 0x80)] := by
  unfold String.utf8EncodeChar
  simp only [Char.toNat_val]
  rw [if_neg (by omega), if_neg (by omega), if_neg (by omega)]

/-- Reading the encoding of a character finds a well-formed head as long as the encoding, and
the character's code point in it, whatever octets follow. -/
theorem read_encode_append (c : Char) (rest : List UInt8) :
    width (String.utf8EncodeChar c ++ rest) = (String.utf8EncodeChar c).length ∧
      codePoint (String.utf8EncodeChar c).length (String.utf8EncodeChar c ++ rest) = c.toNat := by
  have hc := toNat_bounds c
  -- the four widths of the encoding, by the size of the code point
  by_cases h1 : c.toNat ≤ 0x7f
  · rw [utf8EncodeChar_one h1]
    refine ⟨?_, by simp [UInt8.toNat_ofNat']; omega⟩
    unfold width
    simp only [List.cons_append, List.nil_append, UInt8.lt_iff_toNat_lt, UInt8.toNat_ofNat',
      UInt8.reduceToNat, List.length_singleton]
    rw [if_pos (by omega)]
  by_cases h2 : c.toNat ≤ 0x7ff
  · rw [utf8EncodeChar_two (by omega) h2]
    refine ⟨?_, by simp [UInt8.toNat_ofNat', payload]; omega⟩
    unfold width
    simp only [List.cons_append, List.nil_append, UInt8.lt_iff_toNat_lt, UInt8.le_iff_toNat_le,
      UInt8.reduceToNat, UInt8.toNat_ofNat', Bool.and_eq_true, decide_eq_true_eq, isTail_iff,
      List.length_cons, List.length_nil]
    split_ifs <;> omega
  by_cases h3 : c.toNat ≤ 0xffff
  · rw [utf8EncodeChar_three (by omega) h3]
    refine ⟨?_, by simp [UInt8.toNat_ofNat', payload]; omega⟩
    unfold width
    simp only [List.cons_append, List.nil_append, UInt8.lt_iff_toNat_lt, UInt8.le_iff_toNat_le,
      UInt8.reduceToNat, UInt8.toNat_ofNat', Bool.and_eq_true, decide_eq_true_eq, isTail_iff,
      ← UInt8.toNat_inj, apply_ite UInt8.toNat, List.length_cons, List.length_nil]
    split_ifs <;> omega
  · rw [utf8EncodeChar_four (by omega)]
    refine ⟨?_, by simp [UInt8.toNat_ofNat', payload]; omega⟩
    unfold width
    simp only [List.cons_append, List.nil_append, UInt8.lt_iff_toNat_lt, UInt8.le_iff_toNat_le,
      UInt8.reduceToNat, UInt8.toNat_ofNat', Bool.and_eq_true, decide_eq_true_eq, isTail_iff,
      ← UInt8.toNat_inj, apply_ite UInt8.toNat, List.length_cons, List.length_nil]
    split_ifs <;> omega

theorem length_utf8EncodeChar_ne_zero (c : Char) : (String.utf8EncodeChar c).length ≠ 0 := by
  rw [String.length_utf8EncodeChar]
  exact (Char.utf8Size_pos c).ne'

/-- Past the head of an encoded character come the octets after its encoding. -/
theorem drop_of_encode_append {c : Char} {rest : List UInt8} {a : UInt8} {r : List UInt8}
    (h : String.utf8EncodeChar c ++ rest = a :: r) :
    r.drop ((String.utf8EncodeChar c).length - 1) = rest := by
  obtain ⟨k, hk⟩ := Nat.exists_eq_succ_of_ne_zero (length_utf8EncodeChar_ne_zero c)
  have hdrop := congrArg (List.drop (String.utf8EncodeChar c).length) h
  rw [List.drop_left, hk, List.drop_succ_cons] at hdrop
  rw [hk, Nat.succ_sub_one]
  exact hdrop.symm

/-- One step of decoding over an encoded character gives the character and the octets after
its encoding. -/
theorem step_encode_append (c : Char) (rest : List UInt8) {a : UInt8} {r : List UInt8}
    (h : String.utf8EncodeChar c ++ rest = a :: r) : step a r = (c, rest) := by
  obtain ⟨hwidth, hpoint⟩ := read_encode_append c rest
  rw [h] at hwidth hpoint
  unfold step
  rw [hwidth, if_neg (length_utf8EncodeChar_ne_zero c), hpoint, Char.ofNat_toNat,
    drop_of_encode_append h]

theorem encode_codePoint_one (a : UInt8) (rest : List UInt8) (ha : a.toNat < 0x80) :
    String.utf8EncodeChar (Char.ofNat (codePoint 1 (a :: rest))) = [a] := by
  have hv : a.toNat.isValidChar := by omega
  rw [codePoint_one, utf8EncodeChar_one (by rw [toNat_ofNat_of_valid hv]; omega),
    toNat_ofNat_of_valid hv, UInt8.ofNat_toNat]

theorem encode_codePoint_two (a b : UInt8) (rest : List UInt8) (ha1 : 0xC2 ≤ a.toNat)
    (ha2 : a.toNat ≤ 0xDF) (hb : 0x80 ≤ b.toNat ∧ b.toNat ≤ 0xBF) :
    String.utf8EncodeChar (Char.ofNat (codePoint 2 (a :: b :: rest))) = [a, b] := by
  rw [codePoint_two]
  have hv : (a.toNat % 32 * 64 + payload b).isValidChar := by unfold payload; omega
  rw [utf8EncodeChar_two (by rw [toNat_ofNat_of_valid hv]; unfold payload; omega)
    (by rw [toNat_ofNat_of_valid hv]; unfold payload; omega), toNat_ofNat_of_valid hv]
  simp only [List.cons.injEq, ← UInt8.toNat_inj, UInt8.toNat_ofNat', payload, and_true]
  omega

/-- The second octet's bounds after `0xE0` and `0xED` keep out overlong forms and surrogates. -/
theorem encode_codePoint_three (a b c : UInt8) (rest : List UInt8) (ha1 : 0xE0 ≤ a.toNat)
    (ha2 : a.toNat ≤ 0xEF) (hlo : (if a.toNat = 0xE0 then 0xA0 else 0x80) ≤ b.toNat)
    (hhi : b.toNat ≤ (if a.toNat = 0xED then 0x9F else 0xBF))
    (hc : 0x80 ≤ c.toNat ∧ c.toNat ≤ 0xBF) :
    String.utf8EncodeChar (Char.ofNat (codePoint 3 (a :: b :: c :: rest))) = [a, b, c] := by
  rw [codePoint_three]
  have hb : 0x80 ≤ b.toNat ∧ b.toNat ≤ 0xBF := by split_ifs at hlo hhi <;> omega
  have hv : (a.toNat % 16 * 4096 + payload b * 64 + payload c).isValidChar := by
    unfold payload
    split_ifs at hlo hhi <;> omega
  have hrange : 0x7ff < a.toNat % 16 * 4096 + payload b * 64 + payload c := by
    unfold payload
    split_ifs at hlo <;> omega
  rw [utf8EncodeChar_three (by rw [toNat_ofNat_of_valid hv]; exact hrange)
    (by rw [toNat_ofNat_of_valid hv]; unfold payload; omega), toNat_ofNat_of_valid hv]
  simp only [List.cons.injEq, ← UInt8.toNat_inj, UInt8.toNat_ofNat', payload, and_true]
  omega

/-- The second octet's bounds after `0xF0` and `0xF4` keep out overlong forms and code points
past U+10FFFF. -/
theorem encode_codePoint_four (a b c d : UInt8) (rest : List UInt8) (ha1 : 0xF0 ≤ a.toNat)
    (ha2 : a.toNat ≤ 0xF4) (hlo : (if a.toNat = 0xF0 then 0x90 else 0x80) ≤ b.toNat)
    (hhi : b.toNat ≤ (if a.toNat = 0xF4 then 0x8F else 0xBF))
    (hc : 0x80 ≤ c.toNat ∧ c.toNat ≤ 0xBF) (hd : 0x80 ≤ d.toNat ∧ d.toNat ≤ 0xBF) :
    String.utf8EncodeChar (Char.ofNat (codePoint 4 (a :: b :: c :: d :: rest))) = [a, b, c, d] := by
  rw [codePoint_four]
  have hb : 0x80 ≤ b.toNat ∧ b.toNat ≤ 0xBF := by split_ifs at hlo hhi <;> omega
  have hv : (a.toNat % 8 * 262144 + payload b * 4096 + payload c * 64 + payload d).isValidChar := by
    unfold payload
    split_ifs at hlo hhi <;> omega
  have hrange : 0xffff < a.toNat % 8 * 262144 + payload b * 4096 + payload c * 64 + payload d := by
    unfold payload
    split_ifs at hlo <;> omega
  rw [utf8EncodeChar_four (by rw [toNat_ofNat_of_valid hv]; exact hrange), toNat_ofNat_of_valid hv]
  simp only [List.cons.injEq, ← UInt8.toNat_inj, UInt8.toNat_ofNat', payload, and_true]
  omega

/-- A well-formed head is the encoding of the character it reads as. -/
theorem encode_of_width {bs : List UInt8} (h : width bs ≠ 0) :
    String.utf8EncodeChar (Char.ofNat (codePoint (width bs) bs)) ++ bs.drop (width bs) = bs := by
  rcases bs with _ | ⟨a, rest⟩
  · exact absurd rfl h
  generalize hn : width (a :: rest) = n at h ⊢
  unfold width at hn
  simp only [UInt8.lt_iff_toNat_lt, UInt8.le_iff_toNat_le, UInt8.reduceToNat, Bool.and_eq_true,
    decide_eq_true_eq, isTail_iff, ← UInt8.toNat_inj, apply_ite UInt8.toNat] at hn
  -- follow the width's own cases: the lead octet's class, then its continuation octets
  split at hn
  · next ha =>
    subst hn
    rw [encode_codePoint_one a rest ha]
    rfl
  split at hn
  · next _ ha =>
    split at hn
    · next b tail =>
      rcases ite_eq_iff.mp hn with ⟨hb, rfl⟩ | ⟨-, rfl⟩
      · rw [encode_codePoint_two a b tail ha.1 ha.2 hb]
        rfl
      · exact absurd rfl h
    · subst hn
      exact absurd rfl h
  split at hn
  · next _ _ ha =>
    split at hn
    · next b c tail =>
      rcases ite_eq_iff.mp hn with ⟨hbc, rfl⟩ | ⟨-, rfl⟩
      · rw [encode_codePoint_three a b c tail ha.1 ha.2 hbc.1.1 hbc.1.2 hbc.2]
        rfl
      · exact absurd rfl h
    · subst hn
      exact absurd rfl h
  split at hn
  · next _ _ _ ha =>
    split at hn
    · next b c d tail =>
      rcases ite_eq_iff.mp hn with ⟨hbcd, rfl⟩ | ⟨-, rfl⟩
      · rw [encode_codePoint_four a b c d tail ha.1 ha.2 hbcd.1.1.1 hbcd.1.1.2 hbcd.1.2 hbcd.2]
        rfl
      · exact absurd rfl h
    · subst hn
      exact absurd rfl h
  · subst hn
    exact absurd rfl h

/-- Decoding the encoding of characters gives the characters back. -/
theorem decode_encode (cs : List Char) : decode (cs.flatMap String.utf8EncodeChar) = cs := by
  induction cs with
  | nil => simp [decode]
  | cons c cs ih =>
    rw [List.flatMap_cons]
    obtain ⟨a, r, har⟩ := List.exists_cons_of_ne_nil
      (List.append_ne_nil_of_left_ne_nil String.utf8EncodeChar_ne_nil
        (cs.flatMap String.utf8EncodeChar))
    rw [har, decode, step_encode_append c _ har, ih]

/-- The encoding of characters is well formed. -/
theorem valid_encode (cs : List Char) : valid (cs.flatMap String.utf8EncodeChar) = true := by
  induction cs with
  | nil => simp [valid]
  | cons c cs ih =>
    rw [List.flatMap_cons]
    obtain ⟨a, r, har⟩ := List.exists_cons_of_ne_nil
      (List.append_ne_nil_of_left_ne_nil String.utf8EncodeChar_ne_nil
        (cs.flatMap String.utf8EncodeChar))
    have hwidth := (read_encode_append c (cs.flatMap String.utf8EncodeChar)).1
    rw [har] at hwidth
    rw [har, valid]
    simp only [hwidth, drop_of_encode_append har, ih, Bool.and_true, bne_iff_ne]
    exact length_utf8EncodeChar_ne_zero c

/-- Well-formed octets are the encoding of what they decode to. -/
theorem encode_decode (bs : List UInt8) (h : valid bs = true) :
    (decode bs).flatMap String.utf8EncodeChar = bs := by
  induction bs using decode.induct with
  | case1 => simp [decode]
  | case2 a rest ih =>
    rw [valid] at h
    simp only [Bool.and_eq_true, bne_iff_ne, ne_eq] at h
    have hwidth := encode_of_width h.1
    rw [decode, List.flatMap_cons]
    have hstep : step a rest =
        (Char.ofNat (codePoint (width (a :: rest)) (a :: rest)), rest.drop (width (a :: rest) - 1)) := by
      unfold step
      rw [if_neg h.1]
    rw [hstep]
    rw [hstep] at ih
    rw [ih h.2]
    -- the rest after the head is the octets after its width
    obtain ⟨k, hk⟩ := Nat.exists_eq_succ_of_ne_zero h.1
    rw [hk, List.drop_succ_cons] at hwidth
    rw [hk, Nat.succ_sub_one]
    exact hwidth

/-- Octets are well formed exactly when they are the octets of some text. -/
theorem valid_iff_exists_text (bs : List UInt8) : valid bs = true ↔ ∃ s : String, ofText s = bs := by
  constructor
  · intro h
    refine ⟨String.ofList (decode bs), ?_⟩
    rw [ofText_eq_flatMap, String.toList_ofList, encode_decode bs h]
  · rintro ⟨s, rfl⟩
    rw [ofText_eq_flatMap]
    exact valid_encode s.toList

/-- The octets of a text decode to its characters. -/
theorem decode_ofText (s : String) : decode (ofText s) = s.toList := by
  rw [ofText_eq_flatMap, decode_encode]

/-- A text is determined by its octets. -/
theorem ofText_inj {s t : String} (h : ofText s = ofText t) : s = t := by
  rw [← String.toList_inj, ← decode_ofText s, h, decode_ofText]

end CampusLedger.Text.Utf8
