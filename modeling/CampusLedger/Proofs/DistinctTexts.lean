import Mathlib
import CampusLedger.Proofs.BlankTrimming
/-!
# Distinct trimmed texts

Lists read from configuration and from queries are cleaned by one rule: trim each value, drop the
empty ones and keep the first of equal ones, in order. Both cleaners walk the list once with the
values seen so far; here they are shown to compute core's `eraseDups` of the trimmed, non-empty
values, for texts and for octets alike. The cleaned list therefore has no repeats, each of its
values is a trim, and, trimming being idempotent, cleaning it again changes nothing.

Main statement: `distinct_trimmed_keeps_first_clean_values`.
-/

namespace CampusLedger.Text

section FirstOccurrences

variable {α β : Type} [BEq β] [LawfulBEq β]

/-- `eraseDups` keeps one copy of each value. -/
theorem nodup_eraseDups : ∀ l : List β, l.eraseDups.Nodup
  | [] => by simp
  | a :: l => by
    rw [List.eraseDups_cons, List.nodup_cons]
    constructor
    · simp [List.mem_eraseDups]
    · exact nodup_eraseDups (l.filter fun b => !b == a)
termination_by l => l.length
decreasing_by exact Nat.lt_succ_of_le (List.length_filter_le _ _)

/-- A list without repeats is its own list of first occurrences. -/
theorem eraseDups_of_nodup {l : List β} (h : l.Nodup) : l.eraseDups = l := by
  induction l with
  | nil => rfl
  | cons a l ih =>
    rw [List.nodup_cons] at h
    have hkeep : l.filter (fun b => !b == a) = l := by
      apply List.filter_eq_self.mpr
      intro b hb
      have hne : b ≠ a := fun hba => h.1 (hba ▸ hb)
      simpa using hne
    rw [List.eraseDups_cons, hkeep, ih h.2]

/-- One value through the seen-set: skipped when it is empty or seen, and otherwise kept, with
its later copies dropping out as seen. -/
theorem eraseDups_filter_cons (empty : β → Bool) (seen : List β) (t : β) (l : List β) :
    ((t :: l).filter (fun b => !empty b && !seen.contains b)).eraseDups =
      if empty t || seen.contains t then (l.filter (fun b => !empty b && !seen.contains b)).eraseDups
      else t :: (l.filter (fun b => !empty b && !(t :: seen).contains b)).eraseDups := by
  split
  · rename_i hskip
    have hdrop : (!empty t && !seen.contains t) = false := by
      rw [← Bool.not_or, hskip]
      rfl
    simp only [List.filter_cons, hdrop, Bool.false_eq_true, if_false]
  · rename_i hkeep
    have hpass : (!empty t && !seen.contains t) = true := by
      rw [← Bool.not_or]
      simpa using hkeep
    simp only [List.filter_cons, hpass, if_true]
    rw [List.eraseDups_cons, List.filter_filter]
    congr 2
    apply List.filter_congr
    intro b _
    rw [List.contains_cons, Bool.not_or, Bool.and_left_comm]

/-- A left fold that keeps each value not empty and not yet seen, marking it seen, keeps the
first occurrences of the non-empty values. -/
theorem foldl_keeps_first (step : List β × List β → α → List β × List β) (trim : α → β)
    (empty : β → Bool)
    (hstep : ∀ seen kept x, step (seen, kept) x =
      if empty (trim x) || seen.contains (trim x) then (seen, kept)
      else (trim x :: seen, kept ++ [trim x]))
    (xs : List α) (seen kept : List β) :
    (xs.foldl step (seen, kept)).2 =
      kept ++ ((xs.map trim).filter (fun t => !empty t && !seen.contains t)).eraseDups := by
  induction xs generalizing seen kept with
  | nil => simp
  | cons x xs ih =>
    rw [List.foldl_cons, hstep, List.map_cons, eraseDups_filter_cons]
    split_ifs
    · exact ih seen kept
    · rw [ih, List.append_assoc, List.singleton_append]

variable (f : β → β) (p : β → Bool)

theorem mem_firsts {xs : List β} {t : β} :
    t ∈ ((xs.map f).filter p).eraseDups ↔ (∃ s ∈ xs, f s = t) ∧ p t = true := by
  rw [List.mem_eraseDups, List.mem_filter, List.mem_map]

/-- Where `f` is idempotent, the first occurrences of the kept values of `f` are their own. -/
theorem firsts_firsts (hf : ∀ s, f (f s) = f s) (xs : List β) :
    (((((xs.map f).filter p).eraseDups).map f).filter p).eraseDups =
      ((xs.map f).filter p).eraseDups := by
  -- every kept value is a value of `f`, hence fixed by it, and passes the filter
  have hfix : ∀ t ∈ ((xs.map f).filter p).eraseDups, f t = t ∧ p t = true := by
    intro t ht
    obtain ⟨⟨s, -, rfl⟩, hp⟩ := (mem_firsts f p).mp ht
    exact ⟨hf s, hp⟩
  rw [List.map_congr_left (g := id) (fun t ht => (hfix t ht).1), List.map_id,
    List.filter_eq_self.mpr (fun t ht => (hfix t ht).2), eraseDups_of_nodup (nodup_eraseDups _)]

end FirstOccurrences

theorem distinctTrimmedFrom_eq (seen xs : List String) :
    distinctTrimmedFrom seen xs =
      ((xs.map trimBlanks).filter (fun t => !t.isEmpty && !seen.contains t)).eraseDups := by
  induction xs generalizing seen with
  | nil => rfl
  | cons s rest ih =>
    rw [distinctTrimmedFrom, List.map_cons, eraseDups_filter_cons]
    simp only [ih]

/-- The cleaned texts are the first occurrences of the non-empty trims. -/
theorem distinctTrimmed_eq (xs : List String) :
    distinctTrimmed xs = ((xs.map trimBlanks).filter (· ≠ "")).eraseDups := by
  rw [distinctTrimmed, distinctTrimmedFrom_eq]
  congr 1
  apply List.filter_congr
  intro t _
  by_cases ht : t = ""
  · simp [ht]
  · have hne : t.isEmpty = false := by
      rw [Bool.eq_false_iff, ne_eq, String.isEmpty_iff]
      exact ht
    simp [ht, hne]

theorem distinctTrimmed?_distinctTrimmed? (xs : Option (List String)) :
    distinctTrimmed? (distinctTrimmed? xs) = distinctTrimmed? xs := by
  cases xs with
  | none => rfl
  | some xs =>
    simp only [distinctTrimmed?, Option.map_some, distinctTrimmed_eq]
    rw [firsts_firsts _ _ trimBlanks_trimBlanks]

/-- The cleaned octet strings are the first occurrences of the non-empty trims. -/
theorem distinctTrimmedOctets_eq (xs : List (List UInt8)) :
    distinctTrimmedOctets xs = ((xs.map trimBlankOctets).filter (· ≠ [])).eraseDups := by
  unfold distinctTrimmedOctets
  rw [foldl_keeps_first _ trimBlankOctets List.isEmpty (fun _ _ _ => rfl), List.nil_append]
  congr 1
  apply List.filter_congr
  intro t _
  cases t <;> simp

/-- Cleaning lists of values. Each value is trimmed: a text is cut of the blanks at either end,
and octets of the UTF-8 encodings of blanks at either end, whatever else they hold; what is left
neither begins nor ends with one. Empty values are dropped, and of equal values only the first
is kept, in order, so the cleaned list has no repeats and cleaning it again changes nothing. An
absent list stays absent and an empty one stays empty. -/
theorem distinct_trimmed_keeps_first_clean_values :
    (∀ s t : String, trimBlanks s = t ↔ BlankTrim s.toList t.toList) ∧
      (∀ xs : List String,
        distinctTrimmed xs = ((xs.map trimBlanks).filter (· ≠ "")).eraseDups ∧
          (distinctTrimmed xs).Nodup ∧
          (∀ t ∈ distinctTrimmed xs, t ≠ "" ∧ NoBlankEnds t.toList) ∧
          distinctTrimmed (distinctTrimmed xs) = distinctTrimmed xs) ∧
      distinctTrimmed? none = none ∧ distinctTrimmed? (some []) = some [] ∧
      (∀ xs, distinctTrimmed? (distinctTrimmed? xs) = distinctTrimmed? xs) ∧
      (∀ bs t : List UInt8, trimBlankOctets bs = t ↔ OctetTrim bs t) ∧
      (∀ xs : List (List UInt8),
        distinctTrimmedOctets xs = ((xs.map trimBlankOctets).filter (· ≠ [])).eraseDups ∧
          (distinctTrimmedOctets xs).Nodup ∧
          (∀ t ∈ distinctTrimmedOctets xs, t ≠ [] ∧ NoBlankOctetEnds t) ∧
          distinctTrimmedOctets (distinctTrimmedOctets xs) = distinctTrimmedOctets xs) := by
  refine ⟨trimBlanks_eq_iff, fun xs => ?_, rfl, rfl, distinctTrimmed?_distinctTrimmed?,
    trimBlankOctets_eq_iff, fun xs => ?_⟩
  · rw [distinctTrimmed_eq xs, distinctTrimmed_eq]
    refine ⟨rfl, nodup_eraseDups _, fun t ht => ?_, firsts_firsts _ _ trimBlanks_trimBlanks xs⟩
    obtain ⟨⟨s, -, rfl⟩, hne⟩ := (mem_firsts _ _).mp ht
    obtain ⟨-, -, -, -, -, hends⟩ := blankTrim_trimBlanks s
    exact ⟨of_decide_eq_true hne, hends⟩
  · rw [distinctTrimmedOctets_eq xs, distinctTrimmedOctets_eq]
    refine ⟨rfl, nodup_eraseDups _, fun t ht => ?_,
      firsts_firsts _ _ trimBlankOctets_trimBlankOctets xs⟩
    obtain ⟨⟨bs, -, rfl⟩, hne⟩ := (mem_firsts _ _).mp ht
    obtain ⟨-, -, -, -, -, hends⟩ := octetTrim_trimBlankOctets bs
    exact ⟨of_decide_eq_true hne, hends⟩

/-- A broker list with blanks around its entries, an empty entry and a repeat is cleaned to its
two brokers, in order. -/
theorem broker_list_cleaned :
    distinctTrimmed [" b1:9092", "b2:9092 ", "", "b1:9092"] = ["b1:9092", "b2:9092"] := by
  obtain ⟨htrim, hlists, -⟩ := distinct_trimmed_keeps_first_clean_values
  have hclean : NoBlankEnds "b1:9092".toList ∧ NoBlankEnds "b2:9092".toList :=
    ⟨(noBlankEnds_iff _).mpr ⟨by simp [isBlank], by simp [isBlank]⟩,
      (noBlankEnds_iff _).mpr ⟨by simp [isBlank], by simp [isBlank]⟩⟩
  have hfront : trimBlanks " b1:9092" = "b1:9092" :=
    (htrim _ _).mpr ⟨[' '], [], by simp [isBlank], by simp, by simp, hclean.1⟩
  have hback : trimBlanks "b2:9092 " = "b2:9092" :=
    (htrim _ _).mpr ⟨[], [' '], by simp, by simp [isBlank], by simp, hclean.2⟩
  have hempty : trimBlanks "" = "" :=
    (htrim _ _).mpr ⟨[], [], by simp, by simp, by simp, (noBlankEnds_iff _).mpr ⟨by simp, by simp⟩⟩
  have hsame : trimBlanks "b1:9092" = "b1:9092" :=
    (htrim _ _).mpr ⟨[], [], by simp, by simp, by simp, hclean.1⟩
  rw [(hlists _).1]
  simp only [List.map_cons, List.map_nil, hfront, hback, hempty, hsame]
  decide

end CampusLedger.Text
