import Mathlib
import CampusLedger.Ledger.Registry
/-!
# The account registry

A registry stays keyed: every account has at most one record, and each record names the
account it is filed under. Registering adds one record at the end, and replacing a record
rewrites the one filed under its account. So a quantity summed over the records grows by what a
new record holds, and changes by the difference of the old and the new record when one is
replaced.
-/

namespace CampusLedger.Ledger.Registry

variable {α : Type} {r r' : Registry α} {id : AccountId} {x y : α}

/-- Every account has at most one record, and each record names its account. -/
structure Keyed (key : α → AccountId) (r : Registry α) : Prop where
  nodup : (r.records.map Prod.fst).Nodup
  key_eq : ∀ p ∈ r.records, key p.2 = p.1

theorem empty_keyed (key : α → AccountId) : Keyed key (empty : Registry α) :=
  ⟨List.nodup_nil, fun _ hp => absurd hp List.not_mem_nil⟩

theorem contains_eq_false {r : Registry α} :
    r.contains id = false ↔ id ∉ r.records.map Prod.fst := by
  unfold contains
  rw [List.any_eq_false]
  simp only [beq_iff_eq, List.mem_map, not_exists, not_and]

theorem mem_of_find? (h : r.find? id = some x) : (id, x) ∈ r.records := by
  unfold find? at h
  obtain ⟨p, hp, rfl⟩ := Option.map_eq_some_iff.mp h
  have hid : p.1 = id := by simpa using List.find?_some hp
  rw [← hid]
  exact List.mem_of_find?_eq_some hp

theorem lookup_ok (h : r.lookup id = .ok x) : (id, x) ∈ r.records := by
  unfold lookup at h
  split at h
  · cases h
    exact mem_of_find? ‹_›
  · cases h

theorem register_ok (h : r.register id x = .ok r') :
    id ∉ r.records.map Prod.fst ∧ r'.records = r.records ++ [(id, x)] ∧ r'.total = r.total + 1 := by
  unfold register at h
  split at h
  · cases h
  · rename_i hc
    cases h
    exact ⟨contains_eq_false.mp (by simpa using hc), rfl, rfl⟩

/-- The records after replacing the one filed under `id`. -/
def replaced (l : List (AccountId × α)) (id : AccountId) (x : α) : List (AccountId × α) :=
  l.map fun p => if p.1 == id then (id, x) else p

theorem put_ok (h : r.put id x = .ok r') :
    id ∈ r.records.map Prod.fst ∧ r'.records = replaced r.records id x ∧ r'.total = r.total := by
  unfold put at h
  split at h
  · rename_i hc
    cases h
    refine ⟨?_, rfl, rfl⟩
    simpa [contains] using hc
  · cases h

theorem mem_replaced {l : List (AccountId × α)} {p : AccountId × α}
    (hp : p ∈ replaced l id x) : p = (id, x) ∨ p ∈ l := by
  obtain ⟨q, hq, rfl⟩ := List.mem_map.mp hp
  split
  · exact Or.inl rfl
  · exact Or.inr hq

theorem map_fst_replaced (l : List (AccountId × α)) :
    (replaced l id x).map Prod.fst = l.map Prod.fst := by
  simp only [replaced, List.map_map]
  congr 1
  funext p
  simp only [Function.comp]
  split <;> simp_all

theorem replaced_of_not_mem {l : List (AccountId × α)} (h : id ∉ l.map Prod.fst) :
    replaced l id x = l := by
  unfold replaced
  conv_rhs => rw [← List.map_id l]
  refine List.map_congr_left fun p hp => ?_
  have hne : p.1 ≠ id := fun he => h (List.mem_map.mpr ⟨p, hp, he⟩)
  simp [hne]

theorem replaced_cons (q : AccountId × α) (l : List (AccountId × α)) :
    replaced (q :: l) id x = (if q.1 == id then (id, x) else q) :: replaced l id x := rfl

/-- Replacing the one record filed under `id`: the sum after it and the old record's part
equal the sum before it and the new record's part. -/
theorem sum_replaced (f : α → Nat) (x : α) {l : List (AccountId × α)} (hl : (l.map Prod.fst).Nodup)
    (hy : (id, y) ∈ l) :
    ((replaced l id x).map (f ·.2)).sum + f y = (l.map (f ·.2)).sum + f x := by
  induction l with
  | nil => exact absurd hy List.not_mem_nil
  | cons q l ih =>
    rw [List.map_cons, List.nodup_cons] at hl
    rw [replaced_cons]
    by_cases hq : q.1 = id
    · -- the head is the record; no later record is filed under `id`
      have hrest : id ∉ l.map Prod.fst := hq ▸ hl.1
      have hqy : q = (id, y) := by
        rcases List.mem_cons.mp hy with h | h
        · exact h.symm
        · exact absurd (List.mem_map.mpr ⟨_, h, rfl⟩) hrest
      subst hqy
      rw [if_pos (beq_self_eq_true id), replaced_of_not_mem hrest]
      simp only [List.map_cons, List.sum_cons]
      omega
    · have hy' : (id, y) ∈ l := by
        rcases List.mem_cons.mp hy with h | h
        · exact absurd (congrArg Prod.fst h).symm hq
        · exact h
      have ih' := ih hl.2 hy'
      rw [if_neg (by simpa using hq)]
      simp only [List.map_cons, List.sum_cons]
      omega

theorem keyed_register {key : α → AccountId} (hk : Keyed key r) (hx : key x = id)
    (h : r.register id x = .ok r') : Keyed key r' := by
  obtain ⟨hfresh, hrec, -⟩ := register_ok h
  refine ⟨?_, fun p hp => ?_⟩
  · rw [hrec, List.map_append, List.nodup_append]
    refine ⟨hk.nodup, List.nodup_singleton _, ?_⟩
    intro a ha b hb
    simp only [List.map_cons, List.map_nil, List.mem_singleton] at hb
    rintro rfl
    exact hfresh (hb ▸ ha)
  · rw [hrec] at hp
    rcases List.mem_append.mp hp with hp | hp
    · exact hk.key_eq p hp
    · rw [List.mem_singleton.mp hp]
      exact hx

theorem keyed_put {key : α → AccountId} (hk : Keyed key r) (hx : key x = id)
    (h : r.put id x = .ok r') : Keyed key r' := by
  obtain ⟨-, hrec, -⟩ := put_ok h
  refine ⟨?_, fun p hp => ?_⟩
  · rw [hrec, map_fst_replaced]
    exact hk.nodup
  · rw [hrec] at hp
    rcases mem_replaced hp with rfl | hp
    · exact hx
    · exact hk.key_eq p hp

end CampusLedger.Ledger.Registry
