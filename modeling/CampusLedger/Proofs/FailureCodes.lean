import CampusLedger.Http.Message
/-!
# Looking codes up in a failure

A failure wraps what caused it: a domain error wraps its one cause, a plain wrapper its one
cause, and a join several parts. The unwrap tree of a failure (`Failure.nodes`) lists the failure
and then the trees of what it wraps, in order; the library's error walks visit failures in that
order, depth first.

Three look-ups read codes from the tree. Matching against a domain error of a code
(`carries`) asks every failure of the tree, so it holds when any domain error of the tree has
the code. The reported code (`code`) and the message shown in an error reply are those of the
first domain error of the walk (`firstDomain?`). The code test of the services (`hasCode`) takes
the first domain error of the walk, then the first one in its cause, and so on (`Visits`): it
sees every domain error of a chain, but in a join only the part where the first domain error
is found, so a code that only a later part holds is not seen. Where every join holds domain
errors in at most one part (`oneChain`), the code test and matching agree.

Main statement: `domain_codes_follow_the_unwrap_tree`; a join that hides a code from the code
test is `joined_code_hidden_from_code_test`.
-/

namespace CampusLedger.Failure

mutual
/-- The unwrap tree of a failure: the failure itself, then the trees of what it wraps, in
order. -/
def nodes : Failure → List Failure
  | .coded c m none => [.coded c m none]
  | .coded c m (some e) => .coded c m (some e) :: nodes e
  | .wrap m e => .wrap m e :: nodes e
  | .join ps => .join ps :: nodesOf ps
  | e => [e]

/-- The unwrap trees of joined parts, one after the other. -/
def nodesOf : List Failure → List Failure
  | [] => []
  | p :: ps => nodes p ++ nodesOf ps
end

/-- A failure as a domain error: its code, message and cause. -/
def asCoded? : Failure → Option (Code × String × Option Failure)
  | .coded c m cause => some (c, m, cause)
  | _ => none

/-- The first domain error of the walk over the unwrap tree: the one a search for a domain error
finds. -/
def firstDomain? (e : Failure) : Option (Code × String × Option Failure) :=
  e.nodes.findSome? asCoded?

/-- The codes the code test meets: the code of the first domain error of the walk, then the
codes it meets from that error's cause on. -/
inductive Visits : Failure → Code → Prop
  | first {e : Failure} {c : Code} {m : String} {cause : Option Failure} :
      e.firstDomain? = some (c, m, cause) → Visits e c
  | next {e cause : Failure} {c d : Code} {m : String} :
      e.firstDomain? = some (c, m, some cause) → Visits cause d → Visits e d

mutual
/-- Whether the domain errors of a failure lie on one chain: every join holds them in at most
one of its parts. -/
def oneChain : Failure → Bool
  | .coded _ _ (some e) => oneChain e
  | .wrap _ e => oneChain e
  | .join ps => oneChainOf ps
  | _ => true

/-- Whether joined parts hold domain errors in at most one part, and each part on one chain. -/
def oneChainOf : List Failure → Bool
  | [] => true
  | p :: ps =>
    oneChain p && (p.firstCoded?.isNone || ps.all (·.firstCoded?.isNone)) && oneChainOf ps
end

@[simp] theorem asCoded?_coded (c : Code) (m : String) (cause : Option Failure) :
    asCoded? (.coded c m cause) = some (c, m, cause) := rfl

@[simp] theorem nodesOf_nil : nodesOf [] = [] := rfl

@[simp] theorem nodesOf_cons (p : Failure) (ps : List Failure) :
    nodesOf (p :: ps) = nodes p ++ nodesOf ps := rfl

mutual
/-- The search for a domain error finds the first one of the walk. -/
theorem firstCoded?_eq_firstDomain? :
    (e : Failure) → e.firstCoded? = e.firstDomain?.map fun r => (r.1, r.2.1)
  | .coded c m none => rfl
  | .coded c m (some e) => rfl
  | .wrap m e => by
    simp only [firstCoded?, firstDomain?, nodes, List.findSome?_cons, asCoded?]
    exact firstCoded?_eq_firstDomain? e
  | .join ps => by
    simp only [firstCoded?, firstDomain?, nodes, List.findSome?_cons, asCoded?]
    exact firstCodedOf?_eq ps
  | .bank _ | .arith _ | .record _ | .context _ | .injected _ | .note _ | .panic _ => rfl

/-- Among joined parts, the search finds the first domain error of their walks in turn. -/
theorem firstCodedOf?_eq :
    (ps : List Failure) →
      firstCodedOf? ps = ((nodesOf ps).findSome? asCoded?).map fun r => (r.1, r.2.1)
  | [] => rfl
  | p :: ps => by
    have hp := firstCoded?_eq_firstDomain? p
    have hps := firstCodedOf?_eq ps
    simp only [firstDomain?] at hp
    -- the first part with a domain error decides; a part without one is passed over
    cases hfind : (nodes p).findSome? asCoded? with
    | none =>
      rw [hfind, Option.map_none] at hp
      simp only [firstCodedOf?, hp, nodesOf_cons, List.findSome?_append, hfind, Option.none_or,
        hps]
    | some r =>
      rw [hfind, Option.map_some] at hp
      simp only [firstCodedOf?, hp, nodesOf_cons, List.findSome?_append, hfind, Option.some_or,
        Option.map_some]
end

mutual
/-- Matching a code holds exactly when some domain error of the unwrap tree has the code. -/
theorem carries_iff_mem (k : Code) :
    (e : Failure) → (e.carries k = true ↔ ∃ m cause, Failure.coded k m cause ∈ e.nodes)
  | .coded c m none => by
    simp only [carries, nodes, List.mem_singleton, coded.injEq, beq_iff_eq]
    exact ⟨fun h => ⟨m, none, h.symm, rfl, rfl⟩, fun ⟨_, _, h, _, _⟩ => h.symm⟩
  | .coded c m (some e) => by
    have ih := carries_iff_mem k e
    simp only [carries, nodes, List.mem_cons, coded.injEq, Bool.or_eq_true, beq_iff_eq, ih]
    constructor
    · rintro (rfl | ⟨m', cause, hmem⟩)
      · exact ⟨m, some e, .inl ⟨rfl, rfl, rfl⟩⟩
      · exact ⟨m', cause, .inr hmem⟩
    · rintro ⟨m', cause, ⟨rfl, -, -⟩ | hmem⟩
      · exact .inl rfl
      · exact .inr ⟨m', cause, hmem⟩
  | .wrap m e => by
    have ih := carries_iff_mem k e
    simp only [carries, nodes, List.mem_cons, reduceCtorEq, false_or, ih]
  | .join ps => by
    have ih := carriesAny_iff_mem k ps
    simp only [carries, nodes, List.mem_cons, reduceCtorEq, false_or, ih]
  | .bank _ | .arith _ | .record _ | .context _ | .injected _ | .note _ | .panic _ => by
    simp [carries, nodes]

/-- Matching a code among joined parts: some domain error of their trees has the code. -/
theorem carriesAny_iff_mem (k : Code) :
    (ps : List Failure) → (carriesAny k ps = true ↔ ∃ m cause, Failure.coded k m cause ∈ nodesOf ps)
  | [] => by simp [carriesAny]
  | p :: ps => by
    have hp := carries_iff_mem k p
    have hps := carriesAny_iff_mem k ps
    simp only [carriesAny, Bool.or_eq_true, hp, hps, nodesOf_cons, List.mem_append]
    constructor
    · rintro (⟨m, cause, h⟩ | ⟨m, cause, h⟩)
      · exact ⟨m, cause, .inl h⟩
      · exact ⟨m, cause, .inr h⟩
    · rintro ⟨m, cause, h | h⟩
      · exact .inl ⟨m, cause, h⟩
      · exact .inr ⟨m, cause, h⟩
end

/-- A failure whose walk finds no domain error matches no code. -/
theorem carries_eq_false_of_firstCoded?_none {e : Failure} (h : e.firstCoded? = none)
    (k : Code) : e.carries k = false := by
  rw [firstCoded?_eq_firstDomain?, Option.map_eq_none_iff, firstDomain?,
    List.findSome?_eq_none_iff] at h
  cases hk : e.carries k with
  | false => rfl
  | true =>
    obtain ⟨m, cause, hmem⟩ := (carries_iff_mem k e).mp hk
    have := h _ hmem
    simp at this

/-- Joined parts whose walks find no domain error match no code. -/
theorem carriesAny_eq_false_of_firstCoded?_none {ps : List Failure}
    (h : ∀ q ∈ ps, q.firstCoded? = none) (k : Code) : carriesAny k ps = false := by
  induction ps with
  | nil => rfl
  | cons p ps ih =>
    simp only [carriesAny, carries_eq_false_of_firstCoded?_none (h p List.mem_cons_self),
      ih fun q hq => h q (List.mem_cons_of_mem _ hq), Bool.false_or]

mutual
/-- The codes of the code test: the first domain error of the walk, followed by the codes of
its cause. -/
theorem codeChain_eq :
    (e : Failure) → e.codeChain = (e.firstDomain?.map fun r => r.1 :: r.2.2.elim [] codeChain).getD []
  | .coded c m none => rfl
  | .coded c m (some e) => rfl
  | .wrap m e => by
    simp only [codeChain, firstDomain?, nodes, List.findSome?_cons, asCoded?]
    exact codeChain_eq e
  | .join ps => by
    simp only [codeChain, firstDomain?, nodes, List.findSome?_cons, asCoded?]
    exact codeChainOf_eq ps
  | .bank _ | .arith _ | .record _ | .context _ | .injected _ | .note _ | .panic _ => rfl

/-- Among joined parts, the code test follows the first part with a domain error. -/
theorem codeChainOf_eq :
    (ps : List Failure) →
      codeChainOf ps =
        (((nodesOf ps).findSome? asCoded?).map fun r => r.1 :: r.2.2.elim [] codeChain).getD []
  | [] => rfl
  | p :: ps => by
    have hp := codeChain_eq p
    have hps := codeChainOf_eq ps
    simp only [firstDomain?] at hp
    cases hfind : (nodes p).findSome? asCoded? with
    | none =>
      rw [hfind, Option.map_none, Option.getD_none] at hp
      simp only [codeChainOf, hp, nodesOf_cons, List.findSome?_append, hfind, Option.none_or,
        hps]
    | some r =>
      rw [hfind, Option.map_some, Option.getD_some] at hp
      simp only [codeChainOf, hp, nodesOf_cons, List.findSome?_append, hfind, Option.some_or,
        Option.map_some, Option.getD_some]
end

/-- The code test meets no code exactly when the walk finds no domain error. -/
theorem codeChain_eq_nil_iff (e : Failure) : e.codeChain = [] ↔ e.firstCoded? = none := by
  rw [codeChain_eq, firstCoded?_eq_firstDomain?]
  cases e.firstDomain? <;> simp

/-- The code test meets a code exactly when the loop that looks it up does: the first domain
error of the walk, then the first one in its cause, and so on. -/
theorem mem_codeChain_iff_visits (e : Failure) (k : Code) : k ∈ e.codeChain ↔ Visits e k := by
  constructor
  · -- by induction on the codes met, each step moving on to a cause
    intro hk
    generalize hl : e.codeChain = l at hk
    induction l generalizing e with
    | nil => cases hk
    | cons c l ih =>
      rw [codeChain_eq] at hl
      cases hfirst : e.firstDomain? with
      | none => simp [hfirst] at hl
      | some r =>
        obtain ⟨c', m, cause⟩ := r
        simp only [hfirst, Option.map_some, Option.getD_some, List.cons.injEq] at hl
        obtain ⟨rfl, hrest⟩ := hl
        rcases List.mem_cons.mp hk with rfl | hk
        · exact .first hfirst
        · cases cause with
          | none => simp at hrest; subst hrest; cases hk
          | some x => exact .next hfirst (ih x (by simpa using hrest) hk)
  · intro hv
    induction hv with
    | first hfirst =>
      rw [codeChain_eq, hfirst]
      exact List.mem_cons_self
    | next hfirst _ ih =>
      rw [codeChain_eq, hfirst]
      exact List.mem_cons_of_mem _ ih

mutual
/-- Every code the code test meets belongs to a domain error of the tree. -/
theorem carries_of_mem_codeChain {k : Code} :
    (e : Failure) → k ∈ e.codeChain → e.carries k = true
  | .coded c m none, h => by
    simp only [codeChain, List.mem_singleton] at h
    simp [carries, h]
  | .coded c m (some e), h => by
    simp only [codeChain, List.mem_cons] at h
    rcases h with rfl | h
    · simp [carries]
    · simp [carries, carries_of_mem_codeChain e h]
  | .wrap m e, h => carries_of_mem_codeChain e h
  | .join ps, h => carriesAny_of_mem_codeChainOf ps h
  | .bank _, h | .arith _, h | .record _, h | .context _, h | .injected _, h | .note _, h
  | .panic _, h => by simp [codeChain] at h

/-- Among joined parts, every code the code test meets belongs to a domain error of a part. -/
theorem carriesAny_of_mem_codeChainOf {k : Code} :
    (ps : List Failure) → k ∈ codeChainOf ps → carriesAny k ps = true
  | [], h => by simp [codeChainOf] at h
  | p :: ps, h => by
    unfold codeChainOf at h
    split at h
    · simp [carriesAny, carriesAny_of_mem_codeChainOf ps h]
    · simp [carriesAny, carries_of_mem_codeChain p h]
end

mutual
/-- On one chain, the code test meets every code a domain error of the tree has. -/
theorem mem_codeChain_of_carries {k : Code} :
    (e : Failure) → e.oneChain = true → e.carries k = true → k ∈ e.codeChain
  | .coded c m none, _, h => by
    simp only [carries, beq_iff_eq] at h
    subst h
    exact List.mem_singleton_self _
  | .coded c m (some e), hone, h => by
    simp only [carries, Bool.or_eq_true, beq_iff_eq] at h
    simp only [oneChain] at hone
    rcases h with rfl | h
    · simp [codeChain]
    · simp [codeChain, mem_codeChain_of_carries e hone h]
  | .wrap m e, hone, h => mem_codeChain_of_carries e hone h
  | .join ps, hone, h => mem_codeChainOf_of_carriesAny ps hone h
  | .bank _, _, h | .arith _, _, h | .record _, _, h | .context _, _, h | .injected _, _, h
  | .note _, _, h | .panic _, _, h => by simp [carries] at h

/-- Among joined parts on one chain, the code test meets every code a part's domain error
has. -/
theorem mem_codeChainOf_of_carriesAny {k : Code} :
    (ps : List Failure) → oneChainOf ps = true → carriesAny k ps = true → k ∈ codeChainOf ps
  | [], _, h => by simp [carriesAny] at h
  | p :: ps, hone, h => by
    simp only [oneChainOf, Bool.and_eq_true, Bool.or_eq_true, Option.isNone_iff_eq_none,
      List.all_eq_true] at hone
    obtain ⟨⟨hp, hsingle⟩, hps⟩ := hone
    simp only [carriesAny, Bool.or_eq_true] at h
    unfold codeChainOf
    split
    · -- the first part has no domain error: it matches nothing, and the rest decides
      rename_i hnil
      have hnone := (codeChain_eq_nil_iff p).mp hnil
      rcases h with h | h
      · rw [carries_eq_false_of_firstCoded?_none hnone] at h
        cases h
      · exact mem_codeChainOf_of_carriesAny ps hps h
    · -- the first part has a domain error, so no later part has one
      rename_i hcons
      rcases h with h | h
      · exact mem_codeChain_of_carries p hp h
      · have hsome : p.firstCoded? ≠ none := fun hn => hcons ((codeChain_eq_nil_iff p).mpr hn)
        rcases hsingle with hn | hrest
        · exact absurd hn hsome
        · rw [carriesAny_eq_false_of_firstCoded?_none hrest k] at h
          cases h
end

/-- The reported code is that of the first domain error of the walk, and `internal` without
one. -/
theorem code_eq_firstDomain (e : Failure) :
    e.code = (e.firstDomain?.map (·.1)).getD .internal := by
  unfold code
  rw [firstCoded?_eq_firstDomain?]
  cases e.firstDomain? <;> rfl

/-- An error reply carries the status of the reported code and, below status 500, the message
of the same first domain error. -/
theorem problemOf_eq_firstDomain (e : Failure) :
    Http.problemOf e =
      (Http.statusOf e.code, Http.problemBody e.code
        (if Http.statusOf e.code < 500 then (e.firstDomain?.map (·.2.1)).getD "" else "")) := by
  unfold Http.problemOf
  rw [firstCoded?_eq_firstDomain?, Option.map_map]
  rfl

/-- How codes are looked up in a failure. Matching a domain error of a code holds exactly when
some domain error of the unwrap tree has the code. The code test meets exactly the code of the
first domain error of the walk and, from each error it meets on, the code of the first domain
error in that error's cause; so every code it meets is matched, and when the domain errors lie
on one chain every code matched is met. The reported code is that of the first domain error of
the walk (`internal` without one), and an error reply below status 500 shows the message of
that same error. -/
theorem domain_codes_follow_the_unwrap_tree (e : Failure) (k : Code) :
    (e.carries k = true ↔ ∃ m cause, Failure.coded k m cause ∈ e.nodes) ∧
      (e.hasCode k = true ↔ Visits e k) ∧
      (e.hasCode k = true → e.carries k = true) ∧
      (e.oneChain = true → e.carries k = true → e.hasCode k = true) ∧
      e.code = (e.firstDomain?.map (·.1)).getD .internal ∧
      Http.problemOf e =
        (Http.statusOf e.code, Http.problemBody e.code
          (if Http.statusOf e.code < 500 then (e.firstDomain?.map (·.2.1)).getD "" else "")) := by
  have hchain : e.hasCode k = true ↔ k ∈ e.codeChain := by simp [hasCode]
  refine ⟨carries_iff_mem k e, hchain.trans (mem_codeChain_iff_visits e k), ?_, ?_,
    code_eq_firstDomain e, problemOf_eq_firstDomain e⟩
  · intro h
    exact carries_of_mem_codeChain e (hchain.mp h)
  · intro hone h
    exact hchain.mpr (mem_codeChain_of_carries e hone h)

/-- A join whose first part is a domain error of another code hides the code of its second part
from the code test, though matching finds it. -/
theorem joined_code_hidden_from_code_test :
    (Failure.join [.make .unknownAccount "", .make .overflow ""]).hasCode .overflow = false ∧
      (Failure.join [.make .unknownAccount "", .make .overflow ""]).carries .overflow = true :=
  ⟨rfl, rfl⟩

end CampusLedger.Failure
