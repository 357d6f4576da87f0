import Mathlib
import CampusLedger.Text.Distinct
import CampusLedger.Proofs.Utf8Codec
/-!
# Trimming blanks

A text is trimmed by cutting the blanks off both of its ends. Octets are trimmed the same way
without being decoded first: what is cut is the UTF-8 encoding of blank characters, and octets
that are not UTF-8 stay as they came.

Both trims are characterised by what they leave: `s` is the result cut of blanks at either end,
only blanks are cut, and the result neither begins nor ends with a blank (`BlankTrim`,
`OctetTrim`). Such a decomposition is unique, so it is the trim, and trimming a second time
changes nothing.

Main statements: `trimBlanks_eq_iff`, `trimBlankOctets_eq_iff`.
-/

namespace CampusLedger.Text

/-- The characters neither begin nor end with a blank. -/
def NoBlankEnds (t : List Char) : Prop :=
  ∀ c rest, isBlank c = true → t ≠ c :: rest ∧ t ≠ rest ++ [c]

/-- `t` is `s` cut of the blanks at either end: only blanks are cut, and none is left at an
end of `t`. -/
def BlankTrim (s t : List Char) : Prop :=
  ∃ l r : List Char, (∀ c ∈ l, isBlank c = true) ∧ (∀ c ∈ r, isBlank c = true) ∧
    s = l ++ t ++ r ∧ NoBlankEnds t

/-- Neither end is a blank: the first and the last character are not blanks. -/
theorem noBlankEnds_iff (t : List Char) :
    NoBlankEnds t ↔ (∀ c ∈ t.head?, isBlank c = false) ∧ (∀ c ∈ t.getLast?, isBlank c = false) := by
  constructor
  · intro h
    constructor
    · intro c hc
      obtain ⟨rest, hrest⟩ := List.head?_eq_some_iff.mp hc
      rw [Bool.eq_false_iff]
      exact fun hb => (h c rest hb).1 hrest
    · intro c hc
      obtain ⟨init, hinit⟩ := List.getLast?_eq_some_iff.mp hc
      rw [Bool.eq_false_iff]
      exact fun hb => (h c init hb).2 hinit
  · rintro ⟨hhead, hlast⟩ c rest hc
    constructor
    · rintro rfl
      rw [hhead c rfl] at hc
      cases hc
    · rintro rfl
      rw [hlast c (by simp)] at hc
      cases hc

theorem toList_trimBlanks (s : String) :
    (trimBlanks s).toList = ((s.toList.dropWhile isBlank).reverse.dropWhile isBlank).reverse := by
  rw [trimBlanks, String.toList_ofList]

theorem not_blank_of_dropWhile_eq_cons {u rest : List Char} {c : Char}
    (h : u.dropWhile isBlank = c :: rest) : isBlank c = false := by
  have hhead := List.head?_dropWhile_not isBlank u
  rw [h] at hhead
  exact hhead

/-- Blanks in front of characters that do not begin with one are all that `dropWhile` takes. -/
theorem dropWhile_blanks_append {l u : List Char} (hl : ∀ c ∈ l, isBlank c = true)
    (hu : ∀ c rest, isBlank c = true → u ≠ c :: rest) : (l ++ u).dropWhile isBlank = u := by
  rw [List.dropWhile_append_of_pos hl]
  cases u with
  | nil => rfl
  | cons c rest =>
    have hc : ¬ isBlank c = true := fun hc => hu c rest hc rfl
    exact List.dropWhile_cons_of_neg hc

/-- What the trim keeps is the text cut of blanks at either end. -/
theorem blankTrim_trimBlanks (s : String) : BlankTrim s.toList (trimBlanks s).toList := by
  rw [toList_trimBlanks]
  -- `v` is the text after its leading blanks; the kept part is `v` before its trailing blanks
  set v := s.toList.dropWhile isBlank with hv
  have hsplit : v = (v.reverse.dropWhile isBlank).reverse ++ (v.reverse.takeWhile isBlank).reverse := by
    rw [← List.reverse_append, List.takeWhile_append_dropWhile, List.reverse_reverse]
  refine ⟨s.toList.takeWhile isBlank, (v.reverse.takeWhile isBlank).reverse,
    fun c hc => List.mem_takeWhile_imp hc,
    fun c hc => List.mem_takeWhile_imp (List.mem_reverse.mp hc), ?_, ?_⟩
  · rw [List.append_assoc, ← hsplit, hv, List.takeWhile_append_dropWhile]
  · intro c rest hc
    constructor
    · intro hfront
      rw [hfront, List.cons_append] at hsplit
      rw [not_blank_of_dropWhile_eq_cons (hv.symm.trans hsplit)] at hc
      cases hc
    · intro hback
      have hrev : v.reverse.dropWhile isBlank = c :: rest.reverse := by
        rw [← List.reverse_reverse (v.reverse.dropWhile isBlank), hback]
        simp
      rw [not_blank_of_dropWhile_eq_cons hrev] at hc
      cases hc

/-- A text cut of blanks at either end is what the trim keeps. -/
theorem trimBlanks_of_blankTrim {s : String} {t : List Char} (h : BlankTrim s.toList t) :
    (trimBlanks s).toList = t := by
  obtain ⟨l, r, hl, hr, hs, ht⟩ := h
  rw [toList_trimBlanks, hs]
  rcases t with _ | ⟨c, rest⟩
  · -- nothing but blanks: all of it goes
    have hall : ∀ x ∈ l ++ [] ++ r, isBlank x = true := by
      intro x hx
      simp only [List.append_nil, List.mem_append] at hx
      exact hx.elim (hl x) (hr x)
    rw [List.dropWhile_eq_nil_iff.mpr hall]
    rfl
  · have hfront : (l ++ (c :: rest) ++ r).dropWhile isBlank = c :: rest ++ r := by
      rw [List.append_assoc]
      apply dropWhile_blanks_append hl
      intro d more hd heq
      rw [List.cons_append, List.cons.injEq] at heq
      exact (ht d rest hd).1 (by rw [heq.1])
    have hback : ((c :: rest ++ r).reverse).dropWhile isBlank = (c :: rest).reverse := by
      rw [List.reverse_append]
      apply dropWhile_blanks_append (fun x hx => hr x (List.mem_reverse.mp hx))
      intro d more hd heq
      apply (ht d more.reverse hd).2
      rw [← List.reverse_reverse (c :: rest), heq]
      simp
    rw [hfront, hback, List.reverse_reverse]

/-- The trim of a text is characterised by what it keeps. -/
theorem trimBlanks_eq_iff (s t : String) : trimBlanks s = t ↔ BlankTrim s.toList t.toList := by
  constructor
  · rintro rfl
    exact blankTrim_trimBlanks s
  · intro h
    rw [← String.toList_inj]
    exact trimBlanks_of_blankTrim h

/-- Trimming a trimmed text changes nothing. -/
theorem trimBlanks_trimBlanks (s : String) : trimBlanks (trimBlanks s) = trimBlanks s := by
  obtain ⟨-, -, -, -, -, hends⟩ := blankTrim_trimBlanks s
  rw [trimBlanks_eq_iff]
  exact ⟨[], [], by simp, by simp, by simp, hends⟩

namespace Utf8

open String (utf8EncodeChar)

/-- The encoding of a character is a lead octet followed by continuation octets. -/
theorem encode_lead (c : Char) : ∃ b cont, utf8EncodeChar c = b :: cont ∧ isTail b = false ∧
    ∀ x ∈ cont, isTail x = true := by
  have hc := toNat_bounds c
  by_cases h1 : c.toNat ≤ 0x7f
  · rw [utf8EncodeChar_one h1]
    refine ⟨_, [], rfl, ?_, by simp⟩
    simp [isTail, UInt8.le_iff_toNat_le, UInt8.toNat_ofNat']
    omega
  by_cases h2 : c.toNat ≤ 0x7ff
  · rw [utf8EncodeChar_two (by omega) h2]
    refine ⟨_, _, rfl, ?_, ?_⟩
    · simp [isTail, UInt8.le_iff_toNat_le, UInt8.toNat_ofNat']
      omega
    · simp [isTail, UInt8.le_iff_toNat_le, UInt8.toNat_ofNat']
      omega
  by_cases h3 : c.toNat ≤ 0xffff
  · rw [utf8EncodeChar_three (by omega) h3]
    refine ⟨_, _, rfl, ?_, ?_⟩
    · simp [isTail, UInt8.le_iff_toNat_le, UInt8.toNat_ofNat']
      omega
    · simp [isTail, UInt8.le_iff_toNat_le, UInt8.toNat_ofNat']
      omega
  · rw [utf8EncodeChar_four (by omega)]
    refine ⟨_, _, rfl, ?_, ?_⟩
    · simp [isTail, UInt8.le_iff_toNat_le, UInt8.toNat_ofNat']
      omega
    · simp [isTail, UInt8.le_iff_toNat_le, UInt8.toNat_ofNat']
      omega

/-- No character starts at a continuation octet. -/
theorem width_of_isTail {b : UInt8} (rest : List UInt8) (hb : isTail b = true) :
    width (b :: rest) = 0 := by
  rw [isTail_iff] at hb
  unfold width
  simp only [UInt8.lt_iff_toNat_lt, UInt8.le_iff_toNat_le, UInt8.reduceToNat, Bool.and_eq_true,
    decide_eq_true_eq]
  rw [if_neg (by omega), if_neg (by omega), if_neg (by omega), if_neg (by omega)]

/-- Past its first octet, an encoding goes on with a continuation octet. -/
theorem drop_encode_of_pos {c : Char} {m : Nat} (h0 : 0 < m) (hm : m < (utf8EncodeChar c).length) :
    ∃ x rest, (utf8EncodeChar c).drop m = x :: rest ∧ isTail x = true := by
  obtain ⟨b, cont, henc, -, htail⟩ := encode_lead c
  rw [henc] at hm ⊢
  obtain ⟨k, rfl⟩ := Nat.exists_eq_succ_of_ne_zero h0.ne'
  have hk : k < cont.length := by simpa using hm
  rw [List.drop_succ_cons, List.drop_eq_getElem_cons hk]
  exact ⟨_, _, rfl, htail _ (List.getElem_mem hk)⟩

theorem length_le_length_flatMap (cs : List Char) : cs.length ≤ (cs.flatMap utf8EncodeChar).length := by
  induction cs with
  | nil => simp
  | cons c cs ih =>
    have hc := length_utf8EncodeChar_ne_zero c
    rw [List.flatMap_cons, List.length_append, List.length_cons]
    omega

/-- Encoded characters begin with a lead octet, so an encoding found at the front of `t` followed
by encoded characters lies within `t`, once `t` is not empty. -/
theorem encode_prefix_of_append {t rest : List UInt8} {m : List Char} {c : Char} (ht : t ≠ [])
    (h : t ++ m.flatMap utf8EncodeChar = utf8EncodeChar c ++ rest) :
    ∃ more, t = utf8EncodeChar c ++ more := by
  rcases List.append_eq_append_iff.mp h with ⟨as, hc, hm⟩ | ⟨more, hmore, -⟩
  · cases as with
    | nil => exact ⟨[], by simp [hc]⟩
    | cons x as =>
      exfalso
      -- `x` continues the encoding of `c` ...
      obtain ⟨b, cont, henc, -, htail⟩ := encode_lead c
      have hx : isTail x = true := by
        obtain ⟨y, t', rfl⟩ := List.exists_cons_of_ne_nil ht
        rw [henc, List.cons_append, List.cons.injEq] at hc
        exact htail x (by rw [hc.2]; simp)
      -- ... but it also starts the encoding of the first of `m`
      cases m with
      | nil => simp at hm
      | cons d m =>
        obtain ⟨b', cont', hd, hlead, -⟩ := encode_lead d
        rw [List.flatMap_cons, hd, List.cons_append, List.cons_append, List.cons.injEq] at hm
        rw [← hm.1, hlead] at hx
        cases hx
  · exact ⟨more, hmore⟩

end Utf8

open String (utf8EncodeChar)

/-- The octets neither begin nor end with the encoding of a blank. -/
def NoBlankOctetEnds (t : List UInt8) : Prop :=
  ∀ c rest, isBlank c = true → t ≠ utf8EncodeChar c ++ rest ∧ t ≠ rest ++ utf8EncodeChar c

/-- `t` is `bs` cut of encoded blanks at either end: only encodings of blanks are cut, and none
is left at an end of `t`. -/
def OctetTrim (bs t : List UInt8) : Prop :=
  ∃ l r : List Char, (∀ c ∈ l, isBlank c = true) ∧ (∀ c ∈ r, isBlank c = true) ∧
    bs = l.flatMap utf8EncodeChar ++ t ++ r.flatMap utf8EncodeChar ∧ NoBlankOctetEnds t

/-- Where `lastWidth` finds a width, the octets end with a well-formed character that long. -/
theorem width_of_lastWidth {bs : List UInt8} (h : lastWidth bs ≠ 0) :
    lastWidth bs ≤ bs.length ∧ Utf8.width (bs.drop (bs.length - lastWidth bs)) = lastWidth bs := by
  unfold lastWidth at *
  cases hfind : (List.range 4).find? (fun i =>
      i + 1 ≤ bs.length && Utf8.width (bs.drop (bs.length - (i + 1))) == i + 1) with
  | none =>
    rw [hfind] at h
    exact absurd rfl h
  | some i =>
    have hi := List.find?_some hfind
    simp only [Bool.and_eq_true, decide_eq_true_eq, beq_iff_eq] at hi
    simpa using hi

/-- The octets are those before their last character, then that character's encoding. -/
theorem eq_take_append_encode_of_lastWidth {bs : List UInt8} (h : lastWidth bs ≠ 0) :
    bs = bs.take (bs.length - lastWidth bs) ++ utf8EncodeChar (Char.ofNat
      (Utf8.codePoint (lastWidth bs) (bs.drop (bs.length - lastWidth bs)))) := by
  obtain ⟨hle, hwidth⟩ := width_of_lastWidth h
  have hw0 : Utf8.width (bs.drop (bs.length - lastWidth bs)) ≠ 0 := by omega
  have henc := Utf8.encode_of_width hw0
  have hend : (bs.drop (bs.length - lastWidth bs)).drop (lastWidth bs) = [] := by
    rw [List.drop_drop]
    exact List.drop_eq_nil_of_le (by omega)
  rw [hwidth, hend, List.append_nil] at henc
  rw [henc, List.take_append_drop]

/-- The last character found in octets that end with an encoding is that encoding's. -/
theorem lastWidth_append_encode (u : List UInt8) (c : Char) :
    lastWidth (u ++ utf8EncodeChar c) = (utf8EncodeChar c).length := by
  have hk : (utf8EncodeChar c).length ≤ 4 := by
    rw [String.length_utf8EncodeChar]
    exact Char.utf8Size_le_four c
  have hk0 := Utf8.length_utf8EncodeChar_ne_zero c
  have hdrop (j : Nat) (hj : j ≤ (utf8EncodeChar c).length) :
      (u ++ utf8EncodeChar c).drop ((u ++ utf8EncodeChar c).length - j) =
        (utf8EncodeChar c).drop ((utf8EncodeChar c).length - j) := by
    rw [List.drop_append, List.drop_eq_nil_of_le (by simp only [List.length_append]; omega),
      List.nil_append, List.length_append]
    congr 1
    omega
  have hfind : (List.range 4).find? (fun i => i + 1 ≤ (u ++ utf8EncodeChar c).length &&
      Utf8.width ((u ++ utf8EncodeChar c).drop ((u ++ utf8EncodeChar c).length - (i + 1))) ==
        i + 1) = some ((utf8EncodeChar c).length - 1) := by
    rw [List.find?_range_eq_some]
    refine ⟨?_, List.mem_range.mpr (by omega), ?_⟩
    · -- the whole encoding is one character
      rw [Nat.sub_add_cancel (by omega), hdrop _ le_rfl, Nat.sub_self, List.drop_zero]
      have hwidth := (Utf8.read_encode_append c []).1
      rw [List.append_nil] at hwidth
      simp [hwidth]
    · -- a shorter end starts with a continuation octet
      intro j hj
      obtain ⟨x, rest, hx, htail⟩ :=
        Utf8.drop_encode_of_pos (c := c) (m := (utf8EncodeChar c).length - (j + 1)) (by omega)
          (by omega)
      rw [hdrop _ (by omega), hx, Utf8.width_of_isTail rest htail]
      simp
  unfold lastWidth
  rw [hfind]
  simp only [Option.map_some, Option.getD_some]
  omega

/-- The front test of the trim passes on octets that begin with the encoding of a blank. -/
theorem frontTest_encode_append {c : Char} (rest : List UInt8) (hc : isBlank c = true) :
    (Utf8.width (utf8EncodeChar c ++ rest) != 0 && isBlank (Char.ofNat (Utf8.codePoint
      (Utf8.width (utf8EncodeChar c ++ rest)) (utf8EncodeChar c ++ rest)))) = true := by
  obtain ⟨hwidth, hpoint⟩ := Utf8.read_encode_append c rest
  have hn : ((utf8EncodeChar c).length != 0) = true :=
    bne_iff_ne.mpr (Utf8.length_utf8EncodeChar_ne_zero c)
  rw [hwidth, hpoint, Char.ofNat_toNat, hc, hn, Bool.and_self]

theorem dropBlankOctets_encode_append {c : Char} (rest : List UInt8) (hc : isBlank c = true) :
    dropBlankOctets (utf8EncodeChar c ++ rest) = dropBlankOctets rest := by
  have hpass := frontTest_encode_append rest hc
  have hwidth := (Utf8.read_encode_append c rest).1
  obtain ⟨a, r, hcons⟩ := List.exists_cons_of_ne_nil (l := utf8EncodeChar c ++ rest)
    (by simp [String.utf8EncodeChar_ne_nil])
  rw [hcons] at hpass hwidth ⊢
  rw [dropBlankOctets]
  simp only [hpass, if_true]
  rw [hwidth, Utf8.drop_of_encode_append hcons]

/-- Octets that do not begin with an encoded blank lose nothing at the front. -/
theorem dropBlankOctets_of_clean {u : List UInt8}
    (hu : ∀ c rest, isBlank c = true → u ≠ utf8EncodeChar c ++ rest) : dropBlankOctets u = u := by
  cases u with
  | nil => rw [dropBlankOctets]
  | cons a r =>
    rw [dropBlankOctets]
    split
    · rename_i hblank
      simp only [Bool.and_eq_true, bne_iff_ne] at hblank
      exact absurd (Utf8.encode_of_width hblank.1).symm (hu _ _ hblank.2)
    · rfl

theorem dropBlankOctets_blanks_append {l : List Char} {u : List UInt8}
    (hl : ∀ c ∈ l, isBlank c = true)
    (hu : ∀ c rest, isBlank c = true → u ≠ utf8EncodeChar c ++ rest) :
    dropBlankOctets (l.flatMap utf8EncodeChar ++ u) = u := by
  induction l with
  | nil => exact dropBlankOctets_of_clean hu
  | cons c l ih =>
    rw [List.flatMap_cons, List.append_assoc, dropBlankOctets_encode_append _ (hl c (by simp))]
    exact ih (fun x hx => hl x (List.mem_cons_of_mem c hx))

/-- Cutting from the front takes encoded blanks only, and stops before the first octets that do
not encode one. -/
theorem dropBlankOctets_spec (bs : List UInt8) :
    (∃ l : List Char, (∀ c ∈ l, isBlank c = true) ∧
        bs = l.flatMap utf8EncodeChar ++ dropBlankOctets bs) ∧
      ∀ c rest, isBlank c = true → dropBlankOctets bs ≠ utf8EncodeChar c ++ rest := by
  fun_induction dropBlankOctets bs with
  | case1 =>
    refine ⟨⟨[], by simp, rfl⟩, fun c rest _ h => ?_⟩
    simpa [String.utf8EncodeChar_ne_nil] using h.symm
  | case2 a rest n hblank ih =>
    obtain ⟨⟨l, hl, hsplit⟩, hclean⟩ := ih
    simp only [Bool.and_eq_true, bne_iff_ne] at hblank
    -- the front character is an encoded blank; the octets after it split by induction
    have henc := Utf8.encode_of_width hblank.1
    have hdrop : (a :: rest).drop n = rest.drop (n - 1) := by
      obtain ⟨k, hk⟩ := Nat.exists_eq_succ_of_ne_zero hblank.1
      rw [hk, List.drop_succ_cons, Nat.succ_sub_one]
    refine ⟨⟨Char.ofNat (Utf8.codePoint n (a :: rest)) :: l, ?_, ?_⟩, hclean⟩
    · intro c hc
      rcases List.mem_cons.mp hc with rfl | hc
      · exact hblank.2
      · exact hl c hc
    · rw [List.flatMap_cons, List.append_assoc, ← hsplit, ← hdrop]
      exact henc.symm
  | case3 a rest n hnot =>
    refine ⟨⟨[], by simp, by simp⟩, ?_⟩
    intro c more hc heq
    -- an encoded blank in front would have been cut
    have hpass := frontTest_encode_append more hc
    rw [← heq] at hpass
    exact hnot hpass

/-- The back test of the trim passes on octets that end with the encoding of a blank. -/
theorem backTest_append_encode (u : List UInt8) {c : Char} (hc : isBlank c = true) :
    (lastWidth (u ++ utf8EncodeChar c) != 0 && isBlank (Char.ofNat (Utf8.codePoint
      (lastWidth (u ++ utf8EncodeChar c)) ((u ++ utf8EncodeChar c).drop
        ((u ++ utf8EncodeChar c).length - lastWidth (u ++ utf8EncodeChar c)))))) = true := by
  have hpoint : Utf8.codePoint (utf8EncodeChar c).length (utf8EncodeChar c) = c.toNat := by
    simpa using (Utf8.read_encode_append c []).2
  have hn : ((utf8EncodeChar c).length != 0) = true :=
    bne_iff_ne.mpr (Utf8.length_utf8EncodeChar_ne_zero c)
  have htail : (u ++ utf8EncodeChar c).drop ((u ++ utf8EncodeChar c).length -
      (utf8EncodeChar c).length) = utf8EncodeChar c := by
    simp
  rw [lastWidth_append_encode, htail, hpoint, Char.ofNat_toNat, hc, hn, Bool.and_self]

theorem dropBlankOctetsRight_append_encode (fuel : Nat) (u : List UInt8) {c : Char}
    (hc : isBlank c = true) :
    dropBlankOctetsRight (fuel + 1) (u ++ utf8EncodeChar c) = dropBlankOctetsRight fuel u := by
  have hfront : (u ++ utf8EncodeChar c).take ((u ++ utf8EncodeChar c).length -
      (utf8EncodeChar c).length) = u := by
    simp
  simp only [dropBlankOctetsRight, backTest_append_encode u hc, if_true]
  rw [lastWidth_append_encode, hfront]

/-- Octets that do not end with an encoded blank lose nothing at the back. -/
theorem dropBlankOctetsRight_of_clean (fuel : Nat) {u : List UInt8}
    (hu : ∀ c rest, isBlank c = true → u ≠ rest ++ utf8EncodeChar c) :
    dropBlankOctetsRight fuel u = u := by
  cases fuel with
  | zero => rfl
  | succ fuel =>
    simp only [dropBlankOctetsRight]
    split
    · rename_i hblank
      simp only [Bool.and_eq_true, bne_iff_ne] at hblank
      exact absurd (eq_take_append_encode_of_lastWidth hblank.1) (hu _ _ hblank.2)
    · rfl

/-- Cutting encoded blanks at the back, one per unit of fuel. -/
theorem dropBlankOctetsRight_append_blanks (fuel : Nat) (u : List UInt8) {r : List Char}
    (hr : ∀ c ∈ r, isBlank c = true) (hfuel : r.length ≤ fuel) :
    dropBlankOctetsRight fuel (u ++ r.flatMap utf8EncodeChar) =
      dropBlankOctetsRight (fuel - r.length) u := by
  induction r generalizing u with
  | nil => simp
  | cons c r ih =>
    have hc : isBlank c = true := hr c (by simp)
    have hstep : fuel - r.length = fuel - (r.length + 1) + 1 := by
      simp only [List.length_cons] at hfuel
      omega
    rw [List.flatMap_cons, ← List.append_assoc,
      ih (u ++ utf8EncodeChar c) (fun x hx => hr x (List.mem_cons_of_mem c hx))
        (by simp only [List.length_cons] at hfuel; omega),
      hstep, dropBlankOctetsRight_append_encode _ _ hc, List.length_cons]

/-- Cutting from the back takes encoded blanks only. -/
theorem dropBlankOctetsRight_spec (fuel : Nat) (bs : List UInt8) :
    ∃ r : List Char, (∀ c ∈ r, isBlank c = true) ∧
      bs = dropBlankOctetsRight fuel bs ++ r.flatMap utf8EncodeChar := by
  induction fuel generalizing bs with
  | zero => exact ⟨[], by simp, by simp [dropBlankOctetsRight]⟩
  | succ fuel ih =>
    simp only [dropBlankOctetsRight]
    split
    · rename_i hblank
      simp only [Bool.and_eq_true, bne_iff_ne] at hblank
      obtain ⟨r, hr, hsplit⟩ := ih (bs.take (bs.length - lastWidth bs))
      refine ⟨r ++ [Char.ofNat (Utf8.codePoint (lastWidth bs)
        (bs.drop (bs.length - lastWidth bs)))], ?_, ?_⟩
      · intro c hc
        rcases List.mem_append.mp hc with hc | hc
        · exact hr c hc
        · rw [List.mem_singleton.mp hc]
          exact hblank.2
      · rw [List.flatMap_append, List.flatMap_singleton, ← List.append_assoc, ← hsplit]
        exact eq_take_append_encode_of_lastWidth hblank.1
    · exact ⟨[], by simp, by simp⟩

/-- With a unit of fuel for every octet, no encoded blank is left at the back. -/
theorem dropBlankOctetsRight_clean (fuel : Nat) (bs : List UInt8) (h : bs.length ≤ fuel) :
    ∀ c rest, isBlank c = true → dropBlankOctetsRight fuel bs ≠ rest ++ utf8EncodeChar c := by
  induction fuel generalizing bs with
  | zero =>
    intro c rest _ heq
    rw [List.eq_nil_of_length_eq_zero (Nat.le_zero.mp h), dropBlankOctetsRight] at heq
    simp [String.utf8EncodeChar_ne_nil] at heq
  | succ fuel ih =>
    simp only [dropBlankOctetsRight]
    split
    · rename_i hblank
      simp only [Bool.and_eq_true, bne_iff_ne] at hblank
      apply ih
      rw [List.length_take]
      omega
    · rename_i hnot
      intro c rest hc heq
      -- an encoded blank at the back would have been cut
      rw [heq] at hnot
      exact hnot (backTest_append_encode rest hc)

/-- What the trim keeps is the octets cut of encoded blanks at either end. -/
theorem octetTrim_trimBlankOctets (bs : List UInt8) : OctetTrim bs (trimBlankOctets bs) := by
  obtain ⟨⟨l, hl, hfront⟩, hclean⟩ := dropBlankOctets_spec bs
  obtain ⟨r, hr, hback⟩ :=
    dropBlankOctetsRight_spec (dropBlankOctets bs).length (dropBlankOctets bs)
  have htrim : trimBlankOctets bs =
      dropBlankOctetsRight (dropBlankOctets bs).length (dropBlankOctets bs) := rfl
  rw [htrim]
  refine ⟨l, r, hl, hr, ?_, ?_⟩
  · rw [List.append_assoc, ← hback]
    exact hfront
  · intro c rest hc
    refine ⟨?_, dropBlankOctetsRight_clean _ _ le_rfl c rest hc⟩
    -- what is kept begins the front, which begins with no encoded blank
    intro heq
    apply hclean c (rest ++ r.flatMap utf8EncodeChar) hc
    rw [hback, heq, List.append_assoc]

/-- Octets cut of encoded blanks at either end are what the trim keeps. -/
theorem trimBlankOctets_of_octetTrim {bs t : List UInt8} (h : OctetTrim bs t) :
    trimBlankOctets bs = t := by
  obtain ⟨l, r, hl, hr, rfl, ht⟩ := h
  by_cases ht0 : t = []
  · -- nothing but encoded blanks: all of it goes from the front
    subst ht0
    have hall : ∀ c ∈ l ++ r, isBlank c = true := by
      intro c hc
      exact (List.mem_append.mp hc).elim (hl c) (hr c)
    have hnone : ∀ c rest, isBlank c = true → ([] : List UInt8) ≠ utf8EncodeChar c ++ rest := by
      intro c rest _ heq
      simpa [String.utf8EncodeChar_ne_nil] using heq.symm
    have hfront : dropBlankOctets (l.flatMap utf8EncodeChar ++ [] ++ r.flatMap utf8EncodeChar) =
        [] := by
      rw [List.append_nil, ← List.flatMap_append, ← List.append_nil ((l ++ r).flatMap _)]
      exact dropBlankOctets_blanks_append hall hnone
    unfold trimBlankOctets
    rw [hfront]
    rfl
  · -- the front keeps `t` and the encoded blanks after it, then the back cuts those
    have hclean : ∀ c rest, isBlank c = true →
        t ++ r.flatMap utf8EncodeChar ≠ utf8EncodeChar c ++ rest := by
      intro c rest hc heq
      obtain ⟨more, hmore⟩ := Utf8.encode_prefix_of_append ht0 heq
      exact (ht c more hc).1 hmore
    have hfront : dropBlankOctets (l.flatMap utf8EncodeChar ++ t ++ r.flatMap utf8EncodeChar) =
        t ++ r.flatMap utf8EncodeChar := by
      rw [List.append_assoc]
      exact dropBlankOctets_blanks_append hl hclean
    have hfuel : r.length ≤ (t ++ r.flatMap utf8EncodeChar).length := by
      have := Utf8.length_le_length_flatMap r
      rw [List.length_append]
      omega
    unfold trimBlankOctets
    rw [hfront, dropBlankOctetsRight_append_blanks _ _ hr hfuel]
    exact dropBlankOctetsRight_of_clean _ (fun c rest hc => (ht c rest hc).2)

/-- The trim of octets is characterised by what it keeps. -/
theorem trimBlankOctets_eq_iff (bs t : List UInt8) : trimBlankOctets bs = t ↔ OctetTrim bs t := by
  constructor
  · rintro rfl
    exact octetTrim_trimBlankOctets bs
  · exact trimBlankOctets_of_octetTrim

/-- Trimming trimmed octets changes nothing. -/
theorem trimBlankOctets_trimBlankOctets (bs : List UInt8) :
    trimBlankOctets (trimBlankOctets bs) = trimBlankOctets bs := by
  obtain ⟨-, -, -, -, -, hends⟩ := octetTrim_trimBlankOctets bs
  rw [trimBlankOctets_eq_iff]
  exact ⟨[], [], by simp, by simp, by simp, hends⟩

end CampusLedger.Text
