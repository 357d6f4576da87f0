import CampusLedger.Proofs.Redelivery
/-!
# The claim store answers by its rule, sweeping or not

The rule for claims: a claim of an identifier at `t` is granted exactly when no earlier granted
claim of it, made at `c` and not released since, still holds at `t` (that is, `t < c + ttl`).
Read literally, the rule keeps every grant. The store keeps less: one expiry per identifier,
the latest, and every `sweepEvery` grants it drops the expiries that have passed. Over every
run of claims and releases whose clock never goes back, from a fresh store with any time to live
and any sweep period, the store answers every claim as the rule does.

What carries the run is `Claims.Mirrors`: at every time the clock can still reach, an
identifier has a live expiry in the store exactly when it has a live grant in the rule's log.
A sweep at `now` only drops expiries that no time from `now` on sees live, and the grant the
store keeps for an identifier is its latest, which expires last because the clock never goes
back.
-/

namespace CampusLedger.Activity

/-- A call on the claim store: a claim of an identifier at a clock reading, or a release. -/
inductive ClaimCall where
  | claim (id : String) (now : Instant)
  | release (id : String)

def ClaimCall.time? : ClaimCall → Option Instant
  | .claim _ now => some now
  | .release _ => none

namespace Claims

variable {cl : Claims} {id k : String} {now t e : Instant}

/-- The answers of the claims among `calls`, in order, made on the store `c`. -/
def answers : Claims → List ClaimCall → List Bool
  | _, [] => []
  | c, .claim id now :: calls => (c.claim id now).1 :: answers (c.claim id now).2 calls
  | c, .release id :: calls => answers (c.release id) calls

/-- Whether a grant in `log`, each an identifier with the time it was claimed, still holds `id`
at `t`. -/
def holds (ttl : Int) (log : List (String × Instant)) (id : String) (t : Instant) : Bool :=
  log.any fun p => p.1 == id && decide (t < p.2.addNanos ttl)

/-- The rule's answers to `calls`, from a log of the grants not yet released: a claim is granted
exactly when no grant of its identifier still holds, and then joins the log; a release takes
the identifier's grants out of it. -/
def ruleAnswers (ttl : Int) : List (String × Instant) → List ClaimCall → List Bool
  | _, [] => []
  | log, .claim id now :: calls =>
    if holds ttl log id now then false :: ruleAnswers ttl log calls
    else true :: ruleAnswers ttl (log ++ [(id, now)]) calls
  | log, .release id :: calls => ruleAnswers ttl (log.filter (·.1 != id)) calls

/-- The store has an expiry for `id` that is still ahead of `t`. -/
def Live (cl : Claims) (id : String) (t : Instant) : Prop := ∃ e, (id, e) ∈ cl.expiries ∧ t < e

/-- The store holds one expiry per identifier. -/
def Keyed (cl : Claims) : Prop := (cl.expiries.map (·.1)).Nodup

/-- With one expiry per identifier, the expiry found is the one held. -/
theorem expiry?_eq_some_iff (hk : cl.Keyed) : cl.expiry? id = some e ↔ (id, e) ∈ cl.expiries := by
  constructor
  · intro h
    obtain ⟨x, hx, rfl⟩ := Option.map_eq_some_iff.mp h
    have hxk : x.1 = id := by simpa using List.find?_some hx
    rw [← hxk]
    exact List.mem_of_find?_eq_some hx
  · intro h
    obtain ⟨x, hx⟩ := Option.isSome_iff_exists.mp
      ((List.find?_isSome (p := fun x : String × Instant => x.1 == id)).mpr ⟨_, h, by simp⟩)
    have hxk : x.1 = id := by simpa using List.find?_some hx
    -- two held pairs with one identifier are the same pair
    have hsame : x = (id, e) :=
      List.inj_on_of_nodup_map hk (List.mem_of_find?_eq_some hx) h hxk
    simp [expiry?, hx, hsame]

/-- A claim is refused exactly while the store has a live expiry for it. -/
theorem claim_refused_iff (hk : cl.Keyed) : (cl.claim id now).1 = false ↔ cl.Live id now := by
  constructor
  · intro hc
    obtain ⟨-, e, he, hlt⟩ := claim_refused hc
    exact ⟨e, (expiry?_eq_some_iff hk).mp he, hlt⟩
  · rintro ⟨e, he, hlt⟩
    cases hc : (cl.claim id now).1
    · rfl
    · have hle := (claim_granted hc).2 e ((expiry?_eq_some_iff hk).mpr he)
      rw [Instant.le_def] at hle
      rw [Instant.lt_def] at hlt
      omega

theorem live_sweep (h : now ≤ t) : (cl.sweep now).Live id t ↔ cl.Live id t := by
  constructor
  · rintro ⟨e, he, hlt⟩
    exact ⟨e, (List.mem_filter.mp he).1, hlt⟩
  · rintro ⟨e, he, hlt⟩
    -- an expiry still ahead of `t` is ahead of `now`, so the sweep keeps it
    have hnow : now < e := by
      rw [Instant.le_def] at h
      rw [Instant.lt_def] at hlt ⊢
      omega
    exact ⟨e, List.mem_filter.mpr ⟨he, by simpa using hnow⟩, hlt⟩

theorem live_release : (cl.release k).Live id t ↔ id ≠ k ∧ cl.Live id t := by
  constructor
  · rintro ⟨e, he, hlt⟩
    have hm := List.mem_filter.mp he
    exact ⟨by simpa using hm.2, e, hm.1, hlt⟩
  · rintro ⟨hne, e, he, hlt⟩
    exact ⟨e, List.mem_filter.mpr ⟨he, by simpa using hne⟩, hlt⟩

/-- The expiries before any sweep of a grant: the old ones of other identifiers, then the new
one. -/
theorem live_put :
    (∃ e, (k, e) ∈ cl.expiries.filter (·.1 != id) ++ [(id, now.addNanos cl.ttl)] ∧ t < e) ↔
      (k ≠ id ∧ cl.Live k t) ∨ (k = id ∧ t < now.addNanos cl.ttl) := by
  constructor
  · rintro ⟨e, he, hlt⟩
    rcases List.mem_append.mp he with he | he
    · have hm := List.mem_filter.mp he
      exact Or.inl ⟨by simpa using hm.2, e, hm.1, hlt⟩
    · obtain ⟨rfl, rfl⟩ := Prod.mk.inj (List.mem_singleton.mp he)
      exact Or.inr ⟨rfl, hlt⟩
  · rintro (⟨hne, e, he, hlt⟩ | ⟨rfl, hlt⟩)
    · exact ⟨e, List.mem_append_left _ (List.mem_filter.mpr ⟨he, by simpa using hne⟩), hlt⟩
    · exact ⟨_, List.mem_append_right _ (List.mem_singleton_self _), hlt⟩

theorem live_grant (h : now ≤ t) :
    (claim.grant id now cl).2.Live k t ↔
      (k ≠ id ∧ cl.Live k t) ∨ (k = id ∧ t < now.addNanos cl.ttl) := by
  unfold claim.grant
  dsimp only
  split
  · rw [live_sweep h]
    exact live_put
  · exact live_put

theorem keyed_release (hk : cl.Keyed) : (cl.release id).Keyed :=
  hk.sublist (List.filter_sublist.map _)

theorem keyed_sweep (hk : cl.Keyed) : (cl.sweep now).Keyed :=
  hk.sublist (List.filter_sublist.map _)

theorem keyed_grant (hk : cl.Keyed) : (claim.grant id now cl).2.Keyed := by
  -- the new expiry's identifier was filtered out of the old ones
  have hput : ((cl.expiries.filter (·.1 != id) ++ [(id, now.addNanos cl.ttl)]).map (·.1)).Nodup := by
    rw [List.map_append, List.nodup_append]
    refine ⟨hk.sublist (List.filter_sublist.map _), by simp, ?_⟩
    intro a ha b hb
    obtain ⟨p, hp, rfl⟩ := List.mem_map.mp ha
    rw [List.map_singleton, List.mem_singleton] at hb
    subst hb
    simpa using (List.mem_filter.mp hp).2
  unfold claim.grant
  dsimp only
  split
  · exact keyed_sweep hput
  · exact hput

theorem holds_append {ttl : Int} {log : List (String × Instant)} :
    holds ttl (log ++ [(id, now)]) k t = true ↔
      holds ttl log k t = true ∨ (k = id ∧ t < now.addNanos ttl) := by
  simp only [holds, List.any_append, Bool.or_eq_true, List.any_cons, List.any_nil, Bool.or_false,
    Bool.and_eq_true, beq_iff_eq, decide_eq_true_eq]
  constructor
  · rintro (h | ⟨h1, h2⟩)
    · exact Or.inl h
    · exact Or.inr ⟨h1.symm, h2⟩
  · rintro (h | ⟨h1, h2⟩)
    · exact Or.inl h
    · exact Or.inr ⟨h1.symm, h2⟩

theorem holds_release {ttl : Int} {log : List (String × Instant)} :
    holds ttl (log.filter (·.1 != id)) k t = true ↔ k ≠ id ∧ holds ttl log k t = true := by
  simp only [holds, List.any_eq_true, List.mem_filter, Bool.and_eq_true, beq_iff_eq,
    decide_eq_true_eq, bne_iff_ne, ne_eq]
  constructor
  · rintro ⟨p, ⟨hp, hne⟩, hk, hlt⟩
    exact ⟨hk ▸ hne, p, hp, hk, hlt⟩
  · rintro ⟨hne, p, hp, hk, hlt⟩
    exact ⟨p, ⟨hp, hk ▸ hne⟩, hk, hlt⟩

/-- The store mirrors the rule's log of grants as of `clock`, for the time to live `ttl`: it
holds one expiry per identifier, no grant in the log is later than the clock, and at every time
from the clock on an identifier is live in the store exactly when a grant holds it in the
log. -/
structure Mirrors (cl : Claims) (ttl : Int) (log : List (String × Instant)) (clock : Instant) :
    Prop where
  ttl_eq : cl.ttl = ttl
  keyed : cl.Keyed
  before : ∀ p ∈ log, p.2 ≤ clock
  live : ∀ id t, clock ≤ t → (cl.Live id t ↔ holds ttl log id t = true)

theorem mirrors_fresh (ttl : Int) (n : Nat) (clock : Instant) :
    Mirrors { ttl, sweepEvery := n } ttl [] clock where
  ttl_eq := rfl
  keyed := List.nodup_nil
  before := by simp
  live := by simp [Live, holds]

variable {ttl : Int} {log : List (String × Instant)} {clock : Instant}

/-- The clock moves on without changing either side. -/
theorem Mirrors.later (h : Mirrors cl ttl log clock) (hle : clock ≤ now) :
    Mirrors cl ttl log now where
  ttl_eq := h.ttl_eq
  keyed := h.keyed
  before p hp := Instant.le_def.mpr (Int.le_trans (h.before p hp) hle)
  live id t ht := h.live id t (Instant.le_def.mpr (Int.le_trans hle ht))

/-- A granted claim: the store's new expiry and the log's new grant hold the identifier for the
same times, and the older grants of the identifier no longer hold it. -/
theorem Mirrors.grant (h : Mirrors cl ttl log clock) (hle : clock ≤ now)
    (hfree : ¬ cl.Live id now) :
    Mirrors (claim.grant id now cl).2 ttl (log ++ [(id, now)]) now where
  ttl_eq := by rw [ttl_grant, h.ttl_eq]
  keyed := keyed_grant h.keyed
  before p hp := by
    rcases List.mem_append.mp hp with hp | hp
    · exact Instant.le_def.mpr (Int.le_trans (h.before p hp) hle)
    · rw [List.mem_singleton.mp hp]
      exact Instant.le_def.mpr (Int.le_refl _)
  live k t ht := by
    rw [live_grant ht, holds_append, h.ttl_eq]
    by_cases hk : k = id
    · subst hk
      -- a grant of `k` from the log holding at `t` would have held at `now` already
      have hgone : holds ttl log k t ≠ true := by
        intro hh
        obtain ⟨p, hp, hpk⟩ := List.any_eq_true.mp hh
        simp only [Bool.and_eq_true, beq_iff_eq, decide_eq_true_eq] at hpk
        have hheld : holds ttl log k now = true := by
          refine List.any_eq_true.mpr ⟨p, hp, ?_⟩
          simp only [Bool.and_eq_true, beq_iff_eq, decide_eq_true_eq]
          refine ⟨hpk.1, ?_⟩
          have := Instant.lt_def.mp hpk.2
          exact Instant.lt_def.mpr (by rw [Instant.le_def] at ht; omega)
        exact hfree ((h.live k now hle).mpr hheld)
      simp [hgone]
    · simp only [hk, ne_eq, not_false_eq_true, true_and, false_and, or_false]
      exact h.live k t (Instant.le_def.mpr (Int.le_trans (Instant.le_def.mp hle) ht))

theorem Mirrors.release (h : Mirrors cl ttl log clock) :
    Mirrors (cl.release id) ttl (log.filter (·.1 != id)) clock where
  ttl_eq := by rw [ttl_release, h.ttl_eq]
  keyed := keyed_release h.keyed
  before p hp := h.before p (List.mem_filter.mp hp).1
  live k t ht := by
    rw [live_release, holds_release, h.live k t ht]

/-- A store that mirrors the rule's log answers every later run of calls as the rule does. -/
theorem answers_eq_ruleAnswers (calls : List ClaimCall) (h : Mirrors cl ttl log clock)
    (hs : (calls.filterMap ClaimCall.time?).Pairwise (· ≤ ·))
    (hc : ∀ t ∈ calls.filterMap ClaimCall.time?, clock ≤ t) :
    answers cl calls = ruleAnswers ttl log calls := by
  induction calls generalizing cl log clock with
  | nil => rfl
  | cons call calls ih =>
    cases call with
    | release id =>
      exact ih h.release hs hc
    | claim id now =>
      simp only [List.filterMap_cons, ClaimCall.time?, List.pairwise_cons, List.mem_cons,
        forall_eq_or_imp] at hs hc
      have hle : clock ≤ now := hc.1
      have hlater : ∀ t ∈ calls.filterMap ClaimCall.time?, now ≤ t := hs.1
      have hans : (cl.claim id now).1 = false ↔ cl.Live id now := claim_refused_iff h.keyed
      -- both sides refuse exactly when a live grant holds the identifier at `now`
      by_cases hlive : cl.Live id now
      · have hheld : holds ttl log id now = true := (h.live id now hle).mp hlive
        have hc' : (cl.claim id now).1 = false := hans.mpr hlive
        rw [answers, ruleAnswers, if_pos hheld, hc', (claim_refused hc').1]
        exact congrArg _ (ih (h.later hle) hs.2 hlater)
      · have hheld : ¬ holds ttl log id now = true := fun hh => hlive ((h.live id now hle).mpr hh)
        have hc' : (cl.claim id now).1 = true := by
          cases hr : (cl.claim id now).1
          · exact absurd (hans.mp hr) hlive
          · rfl
        rw [answers, ruleAnswers, if_neg hheld, hc', (claim_granted hc').1]
        exact congrArg _ (ih (h.grant hle hlive) hs.2 hlater)

/-- Over every run of claims and releases whose clock never goes back, a fresh store with any
time to live and any sweep period answers every claim by the rule: granted exactly when no
earlier granted claim of the identifier, not released since, still holds at the claim's time.
The periodic sweep changes no answer. -/
theorem claim_store_follows_rule (ttl : Int) (sweepEvery : Nat) (calls : List ClaimCall)
    (hs : (calls.filterMap ClaimCall.time?).Pairwise (· ≤ ·)) :
    answers { ttl, sweepEvery } calls = ruleAnswers ttl [] calls := by
  -- the mirror starts at the first clock reading, which no later one precedes
  cases htimes : calls.filterMap ClaimCall.time? with
  | nil =>
    exact answers_eq_ruleAnswers calls (mirrors_fresh ttl sweepEvery ⟨0⟩) (by simp [htimes])
      (by simp [htimes])
  | cons first rest =>
    rw [htimes] at hs
    refine answers_eq_ruleAnswers calls (mirrors_fresh ttl sweepEvery first) (htimes ▸ hs) ?_
    rw [htimes]
    intro t ht
    rcases List.mem_cons.mp ht with rfl | ht
    · exact Instant.le_def.mpr (Int.le_refl _)
    · exact List.rel_of_pairwise_cons hs ht

/-- Claims of one event around its expiry, a release and a re-claim, swept every second
grant. -/
theorem claim_store_on_a_short_run :
    ([ClaimCall.claim "e1" ⟨0⟩, .claim "e1" ⟨5⟩, .claim "e2" ⟨10⟩, .claim "e1" ⟨10⟩,
        .release "e1", .claim "e1" ⟨12⟩].filterMap ClaimCall.time?).Pairwise (· ≤ ·) ∧
      answers { ttl := 10, sweepEvery := 2 }
          [.claim "e1" ⟨0⟩, .claim "e1" ⟨5⟩, .claim "e2" ⟨10⟩, .claim "e1" ⟨10⟩, .release "e1",
            .claim "e1" ⟨12⟩] =
        ruleAnswers 10 []
          [.claim "e1" ⟨0⟩, .claim "e1" ⟨5⟩, .claim "e2" ⟨10⟩, .claim "e1" ⟨10⟩, .release "e1",
            .claim "e1" ⟨12⟩] :=
  ⟨by decide, claim_store_follows_rule 10 2 _ (by decide)⟩

end Claims

end CampusLedger.Activity
