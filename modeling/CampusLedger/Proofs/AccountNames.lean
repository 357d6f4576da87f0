import Mathlib
import CampusLedger.Identifier
import CampusLedger.Proofs.Utf8Codec
/-!
# Account identifiers read from octets

An account identifier arrives as octets and is accepted exactly when the octets are the UTF-8
encoding of a text of one to 128 octets with no blank and no control character; the identifier
is then that text, so reading it again gives it back. Each refusal is an `invalid_input` failure
that names the first check that fails, in the order: empty, too long, not UTF-8, a blank or
control character.

"UTF-8" here is core's encoding of texts: by `Utf8Codec`, octets the reader finds well formed
are exactly the octets of some text, and they decode to that text's characters.

Main statement: `account_ids_are_checked_names`.
-/

namespace CampusLedger.AccountId

open Text

/-- An identifier is read exactly when its octets are the encoding of a text of one to 128
octets with no blank or control character, and it is that text. -/
theorem parse_eq_ok_iff (bs : List UInt8) (a : AccountId) :
    parse bs = .ok a ↔ 1 ≤ bs.length ∧ bs.length ≤ maxLength ∧ Utf8.ofText a.name = bs ∧
      ∀ c ∈ a.name.toList, isBlank c = false ∧ isControl c = false := by
  unfold parse
  by_cases hempty : bs.isEmpty = true
  · have hnil : bs = [] := List.isEmpty_iff.mp hempty
    subst hnil
    simp
  by_cases hlong : bs.length > maxLength
  · simp only [hempty, hlong, if_true, if_false, Bool.false_eq_true, reduceCtorEq, false_iff,
      not_and]
    omega
  have hpos : 1 ≤ bs.length :=
    List.length_pos_of_ne_nil (fun hnil => hempty (List.isEmpty_iff.mpr hnil))
  simp only [hempty, hlong, Bool.false_eq_true, if_false]
  by_cases hvalid : Utf8.valid bs = true
  · -- well-formed octets are the encoding of the text they decode to
    obtain ⟨s, hs⟩ := (Utf8.valid_iff_exists_text bs).mp hvalid
    have hdecode : Utf8.decode bs = s.toList := hs ▸ Utf8.decode_ofText s
    simp only [hvalid, Bool.not_true, Bool.false_eq_true, if_false, hdecode]
    split
    · next hbad =>
      simp only [reduceCtorEq, false_iff, not_and]
      intro _ _ htext hclean
      -- a text is determined by its octets, so the identifier would be the decoded text
      have hsame : a.name = s := Utf8.ofText_inj (htext.trans hs.symm)
      obtain ⟨c, hc, hbad⟩ := List.any_eq_true.mp hbad
      rw [← hsame] at hc
      simp [hclean c hc] at hbad
    · next hclean =>
      constructor
      · rintro ⟨⟩
        refine ⟨hpos, by omega, by rw [String.ofList_toList]; exact hs, fun c hc => ?_⟩
        rw [String.ofList_toList] at hc
        have := List.any_eq_false.mp (Bool.eq_false_iff.mpr hclean) c hc
        simpa using this
      · rintro ⟨-, -, htext, -⟩
        have hsame : a.name = s := Utf8.ofText_inj (htext.trans hs.symm)
        rw [String.ofList_toList, ← hsame]
  · simp only [Bool.not_eq_true] at hvalid
    simp only [hvalid, Bool.not_false, if_true, reduceCtorEq, false_iff, not_and]
    intro _ _ htext
    rw [← htext] at hvalid
    have := (Utf8.valid_iff_exists_text _).mpr ⟨a.name, rfl⟩
    rw [hvalid] at this
    cases this

/-- Account identifiers are checked names. Octets are accepted exactly when there are one to
128 of them, they are the UTF-8 encoding of a text with no blank or control character, and the
identifier is that text; so reading the identifier's own octets gives it back. A refusal is
always `invalid_input` and names the first check that fails, in the order: empty, too long, not
UTF-8, a blank or control character. -/
theorem account_ids_are_checked_names (bs : List UInt8) :
    (∀ a, parse bs = .ok a ↔ 1 ≤ bs.length ∧ bs.length ≤ maxLength ∧ Utf8.ofText a.name = bs ∧
        ∀ c ∈ a.name.toList, isBlank c = false ∧ isControl c = false) ∧
      (∀ a, parse bs = .ok a → parse (Utf8.ofText a.name) = .ok a) ∧
      (bs = [] → parse bs = .error (.make .invalidInput "account id cannot be empty")) ∧
      (maxLength < bs.length → parse bs = .error (.make .invalidInput "account id too long")) ∧
      (bs ≠ [] → bs.length ≤ maxLength → (∀ s : String, Utf8.ofText s ≠ bs) →
        parse bs = .error (.make .invalidInput "account id must be valid UTF-8")) ∧
      (∀ s : String, Utf8.ofText s = bs → bs ≠ [] → bs.length ≤ maxLength →
        (∃ c ∈ s.toList, isBlank c = true ∨ isControl c = true) →
        parse bs = .error
          (.make .invalidInput "account id contains whitespace or control characters")) ∧
      (∀ e, parse bs = .error e → e.code = .invalidInput) := by
  refine ⟨parse_eq_ok_iff bs, ?_, ?_, ?_, ?_, ?_, ?_⟩
  · intro a ha
    rw [((parse_eq_ok_iff bs a).mp ha).2.2.1]
    exact ha
  · rintro rfl
    rfl
  · intro hlong
    have hne : bs.isEmpty = false :=
      List.isEmpty_eq_false_iff.mpr (List.ne_nil_of_length_pos (by omega))
    simp [parse, hne, hlong]
  · intro hne hlen hnot
    have hempty : bs.isEmpty = false := List.isEmpty_eq_false_iff.mpr hne
    have hvalid : Utf8.valid bs = false := by
      rw [← Bool.not_eq_true, Utf8.valid_iff_exists_text]
      rintro ⟨s, hs⟩
      exact hnot s hs
    simp [parse, hempty, hvalid, Nat.not_lt.mpr hlen]
  · intro s hs hne hlen hbad
    have hempty : bs.isEmpty = false := List.isEmpty_eq_false_iff.mpr hne
    have hvalid : Utf8.valid bs = true := (Utf8.valid_iff_exists_text bs).mpr ⟨s, hs⟩
    have hany : (Utf8.decode bs).any (fun c => isBlank c || isControl c) = true := by
      rw [← hs, Utf8.decode_ofText]
      obtain ⟨c, hc, hcb⟩ := hbad
      exact List.any_eq_true.mpr ⟨c, hc, by simpa using hcb⟩
    simp [parse, hempty, hvalid, hany, Nat.not_lt.mpr hlen]
  · intro e he
    unfold parse at he
    split at he
    · cases he
      rfl
    split at he
    · cases he
      rfl
    split at he
    · cases he
      rfl
    dsimp only at he
    split at he
    · cases he
      rfl
    · cases he

/-- A name with a blank is refused, and a clean one is read back. -/
theorem spaced_name_refused_and_clean_name_read :
    Utf8.ofText "ann" ≠ [] ∧ parse (Utf8.ofText "ann") = .ok ⟨"ann"⟩ ∧
      parse (Utf8.ofText "an n") = .error
        (.make .invalidInput "account id contains whitespace or control characters") := by
  have hann : Utf8.ofText "ann" = [97, 110, 110] := by decide +kernel
  have hspaced : Utf8.ofText "an n" = [97, 110, 32, 110] := by decide +kernel
  refine ⟨by rw [hann]; simp, ?_, ?_⟩
  · apply ((account_ids_are_checked_names _).1 _).mpr
    refine ⟨by rw [hann]; decide, by rw [hann]; decide, rfl, ?_⟩
    simp [isBlank, isControl]
  · apply (account_ids_are_checked_names _).2.2.2.2.2.1 "an n" rfl (by rw [hspaced]; simp)
      (by rw [hspaced]; decide)
    exact ⟨' ', by simp, by simp [isBlank]⟩

end CampusLedger.AccountId
