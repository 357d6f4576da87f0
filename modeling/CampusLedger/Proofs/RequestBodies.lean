import CampusLedger.Api.Requests
/-!
# Reading a request body

A mutating route reads one JSON value from its body into a record. Reading looks at the first
MiB of the body only, takes the first value there, reads it into the record, and then asks
whether more follows. That last question is the one a reader of a JSON stream asks inside an
array or object: is there another element? It treats a closing bracket or brace as the end of
the container, so after the value a closing bracket or brace, and whatever follows it, counts
as nothing more. Data past the first MiB is never looked at.

So a body is read when its first MiB holds exactly one value around blanks that the record's
reader takes, and also when that value is followed by blanks and a closing bracket or brace;
every refusal is a bad request.

Main statement: `body_read_stops_after_first_value`; a body with a stray closing brace that is
read is `stray_brace_after_score_delta_read`.
-/

namespace CampusLedger.Http

open Json

/-- After a value, nothing more follows exactly when the rest is blank, or blank up to a closing
bracket or brace. -/
theorem moreAfter_eq_false_iff (rest : List UInt8) :
    moreAfter rest = false ↔
      skipSpace rest = [] ∨ ∃ more, skipSpace rest = 93 :: more ∨ skipSpace rest = 125 :: more := by
  unfold moreAfter
  cases skipSpace rest with
  | nil => simp
  | cons b more =>
    simp only [Bool.and_eq_false_iff, bne_eq_false_iff_eq, reduceCtorEq, List.cons.injEq,
      false_or]
    constructor
    · rintro (rfl | rfl)
      · exact ⟨more, .inl ⟨rfl, rfl⟩⟩
      · exact ⟨more, .inr ⟨rfl, rfl⟩⟩
    · rintro ⟨_, ⟨rfl, -⟩ | ⟨rfl, -⟩⟩
      · exact .inl rfl
      · exact .inr rfl

/-- Exactly one value around blanks: the first value, with only blanks after it. -/
theorem parse?_eq_some_iff (bs : List UInt8) (v : Json) :
    parse? bs = some v ↔ ∃ rest, readPrefix? bs = some (v, rest) ∧ skipSpace rest = [] := by
  unfold parse?
  cases readPrefix? bs with
  | none => simp
  | some p =>
    obtain ⟨w, rest⟩ := p
    by_cases hblank : skipSpace rest = []
    · simp only [hblank, List.isEmpty_nil, if_true, Option.some.injEq, Prod.mk.injEq]
      exact ⟨fun h => ⟨rest, ⟨h, rfl⟩, hblank⟩, fun ⟨_, ⟨h, _⟩, _⟩ => h⟩
    · simp [hblank]

/-- Only the first MiB of a body is read. -/
theorem decodeBody_take {α : Type} (read : Json → Except Unit α) (body : List UInt8) :
    decodeBody read body = decodeBody read (body.take maxBodyOctets) := by
  unfold decodeBody
  rw [List.take_take, Nat.min_self]

/-- A body is read exactly when its first MiB starts with a value that the record's reader
takes and nothing more follows it. -/
theorem decodeBody_eq_ok_iff {α : Type} (read : Json → Except Unit α) (body : List UInt8)
    (a : α) :
    decodeBody read body = .ok a ↔
      ∃ v rest, readPrefix? (body.take maxBodyOctets) = some (v, rest) ∧ read v = .ok a ∧
        moreAfter rest = false := by
  unfold decodeBody
  constructor
  · -- each refusal of the reading is an error, so a read body passed every step
    intro h
    split at h
    · cases h
    · rename_i v rest hp
      split at h
      · cases h
      · rename_i x hr
        split at h
        · cases h
        · rename_i hm
          cases h
          exact ⟨v, rest, hp, hr, Bool.of_not_eq_true hm⟩
  · rintro ⟨v, rest, hp, hr, hm⟩
    simp only [hp, hr, hm, Bool.false_eq_true, if_false]

/-- A refused body is a bad request: either no value is read, or more follows it. -/
theorem decodeBody_error {α : Type} {read : Json → Except Unit α} {body : List UInt8}
    {e : Failure} (h : decodeBody read body = .error e) : e = invalidBody ∨ e = trailingData := by
  unfold decodeBody at h
  split at h
  · exact .inl (Except.error.inj h).symm
  · split at h
    · exact .inl (Except.error.inj h).symm
    · split at h
      · exact .inr (Except.error.inj h).symm
      · cases h

/-- How a request body is read. Only its first MiB counts. The body is read into a record
exactly when that MiB holds one value around blanks that the record's reader takes, or such a
value followed by blanks and then a closing bracket or brace, with anything after it. Every
refused body is a bad request, for an invalid body or for data after the value. -/
theorem body_read_stops_after_first_value {α : Type} (read : Json → Except Unit α)
    (body : List UInt8) :
    decodeBody read body = decodeBody read (body.take maxBodyOctets) ∧
      (∀ a, decodeBody read body = .ok a ↔
        (∃ v, parse? (body.take maxBodyOctets) = some v ∧ read v = .ok a) ∨
          ∃ v rest more, readPrefix? (body.take maxBodyOctets) = some (v, rest) ∧
            read v = .ok a ∧ (skipSpace rest = 93 :: more ∨ skipSpace rest = 125 :: more)) ∧
      (∀ e, decodeBody read body = .error e →
        e.code = .badRequest ∧ (e = invalidBody ∨ e = trailingData)) := by
  refine ⟨decodeBody_take read body, fun a => ?_, fun e h => ?_⟩
  · rw [decodeBody_eq_ok_iff]
    constructor
    · rintro ⟨v, rest, hp, hr, hm⟩
      rcases (moreAfter_eq_false_iff rest).mp hm with hblank | ⟨more, hclose⟩
      · exact .inl ⟨v, (parse?_eq_some_iff _ v).mpr ⟨rest, hp, hblank⟩, hr⟩
      · exact .inr ⟨v, rest, more, hp, hr, hclose⟩
    · rintro (⟨v, hv, hr⟩ | ⟨v, rest, more, hp, hr, hclose⟩)
      · obtain ⟨rest, hp, hblank⟩ := (parse?_eq_some_iff _ v).mp hv
        exact ⟨v, rest, hp, hr, (moreAfter_eq_false_iff rest).mpr (.inl hblank)⟩
      · exact ⟨v, rest, hp, hr, (moreAfter_eq_false_iff rest).mpr (.inr ⟨more, hclose⟩)⟩
  · rcases decodeBody_error h with rfl | rfl
    · exact ⟨rfl, .inl rfl⟩
    · exact ⟨rfl, .inr rfl⟩

/-- A score update body with a stray closing brace after its object holds no single value, yet
it is read, as the zero delta. -/
theorem stray_brace_after_score_delta_read :
    parse? (ascii "\x7b\x7d\x7d") = none ∧
      (Api.readScoreDelta (ascii "\x7b\x7d\x7d")).toOption = some {} := by
  constructor <;> decide +kernel

end CampusLedger.Http
