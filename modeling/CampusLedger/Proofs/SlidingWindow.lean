import Mathlib.Data.List.Induction
import CampusLedger.Throttle.Window
/-!
# The request window counts exactly the recent allowed requests

Requests reach the window one after another, each with its key, limit, span and the reading of
a clock that never goes back. For one key served with a fixed limit of at least one and a fixed
positive span (a 64-bit duration), a request at `t` is allowed exactly when fewer than `limit`
earlier allowed requests of its key fall in `(t - span, t]`; an allowed request reports the
room left after it and resets when the oldest of those requests, itself included, leaves the
window. No count ever fails, and no interval of one span holds more than `limit` allowed
requests of the key.

The window drops stale stamps lazily: only the front, and only when its key is served. What
carries the run is that the stamps kept for the key are a sublist of its allowed times, and
agree with them on every window that a later clock reading can ask about
(`Window.Tracks`). Since the allowed times are sorted, dropping the front up to the cutoff is
the same as keeping the stamps after it (`dropWhile_eq_filter`).
-/

namespace CampusLedger.Throttle

/-- One request to the window: the key it is counted under, the limit and span it is served
with, and the clock reading. -/
structure Request where
  key : String
  limit : Int
  span : Int
  now : Instant

/-- What the sliding-window rule answers a request at `t` of a key whose earlier allowed
requests in `(t - span, t]` came at the times `recent`: it is allowed exactly when fewer than
`limit` came, and then it reports the room left after it and resets when the oldest of them and
it leaves the window. -/
def Answers (limit span : Int) (recent : List Instant) (t : Instant) (d : Decision) : Prop :=
  (d.allowed = true ↔ (recent.length : Int) < limit) ∧
    (d.allowed = true →
      d.remaining = limit - (recent.length + 1) ∧ 0 ≤ d.remaining ∧
        ∃ o ∈ recent ++ [t], d.resetAt = o.addNanos span ∧ ∀ s ∈ recent ++ [t], o ≤ s)

def grants : Except Failure Decision → Bool
  | .ok d => d.allowed
  | .error _ => false

namespace Window

def serve (w : Window) (q : Request) : Except Failure Decision × Window :=
  w.allow q.key q.limit q.span q.now

/-- Serves requests in order from an empty window: the requests allowed, oldest first, and the
window after them. -/
def replay (qs : List Request) : List Request × Window :=
  qs.foldl (fun acc q =>
    (if grants (acc.2.serve q).1 then acc.1 ++ [q] else acc.1, (acc.2.serve q).2)) ([], {})

def admitted (qs : List Request) : List Request := (replay qs).1

/-- The times of the allowed requests of key `k`, oldest first. -/
def admittedTimes (k : String) (qs : List Request) : List Instant :=
  ((admitted qs).filter (·.key = k)).map (·.now)

/-- The times of the allowed requests of `k` in a history that fall in `(t - span, t]`. -/
def recentTimes (qs : List Request) (k : String) (span : Int) (t : Instant) : List Instant :=
  ((admitted qs).filter fun r => r.key = k ∧ t.nanos - span < r.now.nanos ∧ r.now ≤ t).map (·.now)

@[simp] theorem stampsOf_empty (k : String) : ({} : Window).stampsOf k = [] := rfl

/-- Looking up a key in pairs rewritten without changing any key finds the rewritten pair. -/
theorem find?_map_keyed {β : Type} (l : List (String × β)) {f : String × β → String × β}
    (hf : ∀ p, (f p).1 = p.1) (k : String) :
    (l.map f).find? (·.1 == k) = (l.find? (·.1 == k)).map f := by
  induction l with
  | nil => rfl
  | cons a l ih =>
    simp only [List.map_cons, List.find?_cons, hf]
    split <;> simp [ih]

/-- Replacing the stamps of a key keeps every key. -/
theorem replaced_key (k : String) (ts : List Instant) (p : String × List Instant) :
    (if p.1 == k then (k, ts) else p).1 = p.1 := by
  split
  · rename_i h
    exact (beq_iff_eq.mp h).symm
  · rfl

theorem stampsOf_setStamps_self (w : Window) (k : String) (ts : List Instant) :
    (w.setStamps k ts).stampsOf k = ts := by
  unfold setStamps stampsOf
  split
  · rename_i hany
    obtain ⟨p, hp, hpk⟩ := List.any_eq_true.mp hany
    obtain ⟨x, hx⟩ := Option.isSome_iff_exists.mp
      ((List.find?_isSome (p := fun x : String × List Instant => x.1 == k)).mpr ⟨p, hp, hpk⟩)
    have hxk : x.1 = k := by simpa using List.find?_some hx
    rw [find?_map_keyed _ (replaced_key k ts), hx]
    simp [hxk]
  · rename_i hany
    have hnone : w.stamps.find? (·.1 == k) = none := by
      rw [List.find?_eq_none]
      intro p hp hpk
      exact hany (List.any_eq_true.mpr ⟨p, hp, hpk⟩)
    simp [List.find?_append, hnone]

theorem stampsOf_setStamps_ne (w : Window) {k k' : String} (h : k' ≠ k) (ts : List Instant) :
    (w.setStamps k ts).stampsOf k' = w.stampsOf k' := by
  unfold setStamps stampsOf
  split
  · rw [find?_map_keyed _ (replaced_key k ts)]
    -- the pairs of `k'` are untouched, so the first of them is found as it was
    cases hx : w.stamps.find? (·.1 == k') with
    | none => rfl
    | some x =>
      have hxk : x.1 = k' := by simpa using List.find?_some hx
      simp [hxk, h]
  · have hkk : ((k, ts).1 == k') = false := by simpa using fun e => h e.symm
    cases hx : w.stamps.find? (·.1 == k') with
    | none => simp [List.find?_append, hx, hkk]
    | some x => simp [List.find?_append, hx]

/-- A count leaves the stamps of every other key alone. -/
theorem stampsOf_allow_ne (w : Window) {k k' : String} (h : k' ≠ k) (limit span : Int)
    (t : Instant) : (w.allow k limit span t).2.stampsOf k' = w.stampsOf k' := by
  unfold allow
  dsimp only
  split
  · split <;> exact stampsOf_setStamps_ne w h _
  · exact stampsOf_setStamps_ne w h _

/-- On stamps in clock order, dropping the front up to a cutoff keeps exactly the stamps after
it. -/
theorem dropWhile_eq_filter {l : List Instant} (hl : l.Pairwise (· ≤ ·)) (c : Int) :
    l.dropWhile (fun t => decide (t.nanos ≤ c)) = l.filter (fun t => decide (c < t.nanos)) := by
  induction l with
  | nil => rfl
  | cons a l ih =>
    have hm := List.pairwise_cons.mp hl
    by_cases ha : a.nanos ≤ c
    · rw [List.dropWhile_cons_of_pos (by simpa using ha), ih hm.2]
      simp [show ¬ c < a.nanos by omega]
    · -- every later stamp is at least `a`, so none of them is dropped either
      have hkeep : l.filter (fun t => decide (c < t.nanos)) = l := by
        rw [List.filter_eq_self]
        intro t ht
        have := Instant.le_def.mp (hm.1 t ht)
        simp only [decide_eq_true_eq]
        omega
      rw [List.dropWhile_cons_of_neg (by simpa using ha)]
      simp [show c < a.nanos by omega, hkeep]

/-- The cutoff of a span that is a 64-bit duration is the plain difference. -/
theorem cutoff_nanos (t : Instant) {span : Int} (h0 : 0 < span) (h1 : span < Int.pow 2 63) :
    (t.addNanos (Instant.wrapGap (-span))).nanos = t.nanos - span := by
  have hp : Int.pow 2 63 = 9223372036854775808 := by decide
  have hq : Int.pow 2 64 = 18446744073709551616 := by decide
  rw [hp] at h1
  have hwrap : Instant.wrapGap (-span) = -span := by
    unfold Instant.wrapGap
    rw [hp, hq, Int.emod_eq_of_lt (by omega) (by omega)]
    omega
  rw [Instant.addNanos_nanos, hwrap]
  omega

/-- One count of a key whose stamps are in clock order: the stamps after the cutoff decide it. -/
theorem allow_sorted (w : Window) (k : String) {limit span : Int} (t : Instant)
    (hl : 1 ≤ limit) (h0 : 0 < span) (h1 : span < Int.pow 2 63)
    (hs : (w.stampsOf k).Pairwise (· ≤ ·)) :
    let kept := (w.stampsOf k).filter fun s => decide (t.nanos - span < s.nanos)
    w.allow k limit span t =
      if limit ≤ kept.length then
        (.ok ⟨false, limit, 0, ((kept.head?).getD t).addNanos span⟩, w.setStamps k kept)
      else
        (.ok ⟨true, limit, limit - (kept.length + 1), ((kept.head?).getD t).addNanos span⟩,
          w.setStamps k (kept ++ [t])) := by
  intro kept
  have hkept : (w.stampsOf k).dropWhile
      (fun s => decide (s.nanos ≤ (t.addNanos (Instant.wrapGap (-span))).nanos)) = kept := by
    rw [cutoff_nanos t h0 h1]
    exact dropWhile_eq_filter hs _
  unfold allow
  simp only [hkept]
  split
  · rename_i hfull
    -- a full window holds at least one stamp, since the limit is at least one
    cases hk : kept with
    | nil => rw [hk] at hfull; simp at hfull; omega
    | cons first rest => simp
  · cases hk : kept with
    | nil => simp
    | cons first rest =>
      simp only [List.cons_append, List.head?_cons, Option.getD_some, List.length_cons,
        List.length_append, List.length_nil]
      congr 3

section History

variable {qs : List Request} {q : Request}

theorem replay_snoc (qs : List Request) (q : Request) :
    replay (qs ++ [q]) =
      (if grants ((replay qs).2.serve q).1 then (replay qs).1 ++ [q] else (replay qs).1,
        ((replay qs).2.serve q).2) := by
  unfold replay
  rw [List.foldl_append]
  rfl

theorem admitted_snoc (qs : List Request) (q : Request) :
    admitted (qs ++ [q]) =
      admitted qs ++ (if grants ((replay qs).2.serve q).1 then [q] else []) := by
  unfold admitted
  rw [replay_snoc]
  split <;> simp

theorem admitted_sublist (qs : List Request) : (admitted qs).Sublist qs := by
  induction qs using List.reverseRecOn with
  | nil => exact List.Sublist.slnil
  | append_singleton qs q ih =>
    rw [admitted_snoc]
    split
    · exact ih.append (List.Sublist.refl _)
    · simpa using ih.trans (List.sublist_append_left qs [q])

/-- The allowed times of a key are in clock order when the clock never goes back. -/
theorem admittedTimes_sorted (k : String) (hs : qs.Pairwise (·.now ≤ ·.now)) :
    (admittedTimes k qs).Pairwise (· ≤ ·) := by
  unfold admittedTimes
  rw [List.pairwise_map]
  exact (hs.sublist (admitted_sublist qs)).sublist List.filter_sublist

/-- The key's stamps in `w` track the allowed times of `k` in `qs`, for the span `span`: they
are a sublist of them, and every window that a clock reading no earlier than `qs` can ask about
holds the same stamps in both. -/
def Tracks (k : String) (span : Int) (qs : List Request) (w : Window) : Prop :=
  (w.stampsOf k).Sublist (admittedTimes k qs) ∧
    ∀ t : Instant, (∀ r ∈ qs, r.now ≤ t) →
      (w.stampsOf k).filter (fun s => decide (t.nanos - span < s.nanos)) =
        (admittedTimes k qs).filter fun s => decide (t.nanos - span < s.nanos)

theorem tracks_nil (k : String) (span : Int) : Tracks k span [] {} := by
  simp [Tracks, admittedTimes, admitted, replay]

/-- Narrowing a window that already starts at a cutoff no later than its own. -/
theorem filter_cutoff_twice (l : List Instant) {c c' : Int} (h : c ≤ c') :
    (l.filter fun s => decide (c < s.nanos)).filter (fun s => decide (c' < s.nanos)) =
      l.filter fun s => decide (c' < s.nanos) := by
  rw [List.filter_filter]
  apply List.filter_congr
  intro s _
  by_cases hs : c' < s.nanos
  · simp [hs, show c < s.nanos by omega]
  · simp [hs]

/-- A request of another key leaves the key's stamps and allowed times as they were. -/
theorem Tracks.other {k : String} {span : Int} (hT : Tracks k span qs (replay qs).2)
    (hq : q.key ≠ k) : Tracks k span (qs ++ [q]) (replay (qs ++ [q])).2 := by
  have htimes : admittedTimes k (qs ++ [q]) = admittedTimes k qs := by
    unfold admittedTimes
    rw [admitted_snoc]
    split <;> simp [hq]
  have hstamps : (replay (qs ++ [q])).2.stampsOf k = (replay qs).2.stampsOf k := by
    rw [replay_snoc]
    exact stampsOf_allow_ne _ (Ne.symm hq) _ _ _
  refine ⟨by rw [hstamps, htimes]; exact hT.1, fun t ht => ?_⟩
  rw [hstamps, htimes]
  exact hT.2 t fun r hr => ht r (List.mem_append_left _ hr)

/-- A request of the key, served with its limit and span at a reading no earlier than the
history: its count is decided by the allowed times in its window, and the stamps go on
tracking. -/
theorem Tracks.same {k : String} {limit span : Int} (hT : Tracks k span qs (replay qs).2)
    (hs : (qs ++ [q]).Pairwise (·.now ≤ ·.now)) (hk : q.key = k) (hlim : q.limit = limit)
    (hspan : q.span = span) (hl : 1 ≤ limit) (h0 : 0 < span) (h1 : span < Int.pow 2 63) :
    let recent := (admittedTimes k qs).filter fun s => decide (q.now.nanos - span < s.nanos)
    ((replay qs).2.serve q).1 =
        .ok (if limit ≤ recent.length then ⟨false, limit, 0, ((recent.head?).getD q.now).addNanos span⟩
          else ⟨true, limit, limit - (recent.length + 1), ((recent.head?).getD q.now).addNanos span⟩) ∧
      Tracks k span (qs ++ [q]) (replay (qs ++ [q])).2 := by
  intro recent
  have hle : ∀ r ∈ qs, r.now ≤ q.now := fun r hr =>
    (List.pairwise_append.mp hs).2.2 r hr q (List.mem_singleton_self q)
  have hsorted : ((replay qs).2.stampsOf k).Pairwise (· ≤ ·) :=
    (admittedTimes_sorted k (List.pairwise_append.mp hs).1).sublist hT.1
  have hkept := hT.2 q.now hle
  have hallow := allow_sorted (replay qs).2 k q.now hl h0 h1 hsorted
  rw [hkept] at hallow
  have hserve : (replay qs).2.serve q = (replay qs).2.allow k limit span q.now := by
    rw [serve, hk, hlim, hspan]
  -- the allowed times all come before `q`, so the next windows see them the same way
  have hbefore : ∀ s ∈ admittedTimes k qs, s ≤ q.now := by
    intro s hsm
    obtain ⟨r, hr, rfl⟩ := List.mem_map.mp hsm
    exact hle r ((admitted_sublist qs).subset (List.mem_filter.mp hr).1)
  by_cases hfull : limit ≤ recent.length
  · have hres : (replay qs).2.serve q =
        (.ok ⟨false, limit, 0, ((recent.head?).getD q.now).addNanos span⟩,
          (replay qs).2.setStamps k recent) := by
      rw [hserve, hallow, if_pos hfull]
    refine ⟨by rw [hres, if_pos hfull], ?_, ?_⟩
    · have htimes : admittedTimes k (qs ++ [q]) = admittedTimes k qs := by
        unfold admittedTimes
        rw [admitted_snoc, hres]
        simp [grants]
      rw [replay_snoc, hres, htimes]
      simp only [stampsOf_setStamps_self]
      exact List.filter_sublist
    · intro t ht
      have htimes : admittedTimes k (qs ++ [q]) = admittedTimes k qs := by
        unfold admittedTimes
        rw [admitted_snoc, hres]
        simp [grants]
      have hqt : q.now ≤ t := ht q (List.mem_append_right _ (List.mem_singleton_self q))
      rw [replay_snoc, hres, htimes]
      simp only [stampsOf_setStamps_self]
      exact filter_cutoff_twice _ (by rw [Instant.le_def] at hqt; omega)
  · have hres : (replay qs).2.serve q =
        (.ok ⟨true, limit, limit - (recent.length + 1), ((recent.head?).getD q.now).addNanos span⟩,
          (replay qs).2.setStamps k (recent ++ [q.now])) := by
      rw [hserve, hallow, if_neg hfull]
    have htimes : admittedTimes k (qs ++ [q]) = admittedTimes k qs ++ [q.now] := by
      unfold admittedTimes
      rw [admitted_snoc, hres]
      simp [grants, hk]
    refine ⟨by rw [hres, if_neg hfull], ?_, ?_⟩
    · rw [replay_snoc, hres, htimes]
      simp only [stampsOf_setStamps_self]
      exact List.filter_sublist.append (List.Sublist.refl _)
    · intro t ht
      have hqt : q.now ≤ t := ht q (List.mem_append_right _ (List.mem_singleton_self q))
      rw [replay_snoc, hres, htimes]
      simp only [stampsOf_setStamps_self, List.filter_append]
      rw [filter_cutoff_twice _ (by rw [Instant.le_def] at hqt; omega)]

/-- Serving a history whose key `k` is always served with one limit and span keeps the stamps
of `k` tracking its allowed times. -/
theorem tracks_replay {k : String} {limit span : Int} (hs : qs.Pairwise (·.now ≤ ·.now))
    (hkey : ∀ r ∈ qs, r.key = k → r.limit = limit ∧ r.span = span)
    (hl : 1 ≤ limit) (h0 : 0 < span) (h1 : span < Int.pow 2 63) :
    Tracks k span qs (replay qs).2 := by
  induction qs using List.reverseRecOn with
  | nil => exact tracks_nil k span
  | append_singleton qs q ih =>
    have ih' := ih (List.pairwise_append.mp hs).1
      fun r hr => hkey r (List.mem_append_left _ hr)
    by_cases hq : q.key = k
    · obtain ⟨hlim, hspan⟩ := hkey q (List.mem_append_right _ (List.mem_singleton_self q)) hq
      exact (ih'.same hs hq hlim hspan hl h0 h1).2
    · exact ih'.other hq

/-- The allowed times of `k` after a cutoff are those of the allowed requests in the window
that ends at `t`, when no request came after `t`. -/
theorem admittedTimes_window (k : String) (span : Int) {t : Instant}
    (hle : ∀ r ∈ admitted qs, r.now ≤ t) :
    (admittedTimes k qs).filter (fun s => decide (t.nanos - span < s.nanos)) =
      ((admitted qs).filter fun r =>
        r.key = k ∧ t.nanos - span < r.now.nanos ∧ r.now ≤ t).map (·.now) := by
  unfold admittedTimes
  rw [List.filter_map, List.filter_filter]
  congr 1
  apply List.filter_congr
  intro r hr
  by_cases hk : r.key = k <;> simp [hk, hle r hr]

/-- No cluster of allowed requests of `k` whose times lie within less than a span of each other
holds more than `limit` of them. -/
theorem admitted_cluster_le {k : String} {limit span : Int} (hs : qs.Pairwise (·.now ≤ ·.now))
    (hkey : ∀ r ∈ qs, r.key = k → r.limit = limit ∧ r.span = span)
    (hl : 1 ≤ limit) (h0 : 0 < span) (h1 : span < Int.pow 2 63)
    (P : Instant → Prop) [DecidablePred P]
    (hP : ∀ s t, P s → P t → s ≤ t → t.nanos - span < s.nanos) :
    (((admitted qs).filter fun r => r.key = k ∧ P r.now).length : Int) ≤ limit := by
  induction qs using List.reverseRecOn with
  | nil => simp [admitted, replay]; omega
  | append_singleton qs q ih =>
    have hs' := (List.pairwise_append.mp hs).1
    have hkey' : ∀ r ∈ qs, r.key = k → r.limit = limit ∧ r.span = span :=
      fun r hr => hkey r (List.mem_append_left _ hr)
    have ih' := ih hs' hkey'
    rw [admitted_snoc, List.filter_append, List.length_append]
    by_cases hin : grants ((replay qs).2.serve q).1 = true ∧ q.key = k ∧ P q.now
    · obtain ⟨hg, hk, hPq⟩ := hin
      obtain ⟨hlim, hspan⟩ := hkey q (List.mem_append_right _ (List.mem_singleton_self q)) hk
      have hle : ∀ r ∈ admitted qs, r.now ≤ q.now := fun r hr =>
        (List.pairwise_append.mp hs).2.2 r ((admitted_sublist qs).subset hr) q
          (List.mem_singleton_self q)
      have hstep := (tracks_replay hs' hkey' hl h0 h1).same hs hk hlim hspan hl h0 h1
      rw [admittedTimes_window k span hle] at hstep
      set recent := (admitted qs).filter fun r =>
        r.key = k ∧ q.now.nanos - span < r.now.nanos ∧ r.now ≤ q.now
      -- `q` was allowed, so fewer than `limit` allowed requests were in its window
      have hroom : (recent.length : Int) < limit := by
        by_contra hfull
        have hdec := hstep.1
        rw [if_pos (by rw [List.length_map]; omega)] at hdec
        rw [hdec] at hg
        simp [grants] at hg
      -- and every earlier member of the cluster is one of them
      have hsub : ((admitted qs).filter fun r => r.key = k ∧ P r.now).length ≤ recent.length := by
        rw [← List.countP_eq_length_filter, ← List.countP_eq_length_filter]
        apply List.countP_mono_left
        intro r hr hrP
        simp only [decide_eq_true_eq] at hrP ⊢
        exact ⟨hrP.1, hP r.now q.now hrP.2 hPq (hle r hr), hle r hr⟩
      have hq1 : ((if grants ((replay qs).2.serve q).1 then [q] else []).filter
          (fun r => decide (r.key = k ∧ P r.now))).length = 1 := by
        rw [if_pos hg]
        simp [hk, hPq]
      rw [hq1]
      push_cast
      omega
    · have hnone : (if grants ((replay qs).2.serve q).1 then [q] else []).filter
          (fun r => decide (r.key = k ∧ P r.now)) = [] := by
        split <;> simp_all
      rw [hnone, List.length_nil, Nat.add_zero]
      exact ih'

/-- The first of sorted stamps, or `t` when there are none, is the oldest of them and `t`. -/
theorem head?_getD_oldest {l : List Instant} (hl : l.Pairwise (· ≤ ·)) {t : Instant}
    (ht : ∀ s ∈ l, s ≤ t) :
    (l.head?.getD t) ∈ l ++ [t] ∧ ∀ s ∈ l ++ [t], l.head?.getD t ≤ s := by
  cases l with
  | nil =>
    refine ⟨by simp, fun s hs => ?_⟩
    rw [List.nil_append, List.mem_singleton] at hs
    subst hs
    exact Instant.le_def.mpr (Int.le_refl _)
  | cons a l =>
    refine ⟨by simp, fun s hs => ?_⟩
    simp only [List.head?_cons, Option.getD_some]
    rcases List.mem_append.mp hs with hs | hs
    · rcases List.mem_cons.mp hs with rfl | hs
      · exact Instant.le_def.mpr (Int.le_refl _)
      · exact List.rel_of_pairwise_cons hl hs
    · rw [List.mem_singleton.mp hs]
      exact ht a List.mem_cons_self

/-- A request of the key after any history is answered by the sliding-window rule. -/
theorem serve_answers {k : String} {limit span : Int} (pre : List Request) (q : Request)
    (hs : (pre ++ [q]).Pairwise (·.now ≤ ·.now))
    (hkey : ∀ r ∈ pre ++ [q], r.key = k → r.limit = limit ∧ r.span = span) (hk : q.key = k)
    (hl : 1 ≤ limit) (h0 : 0 < span) (h1 : span < Int.pow 2 63) :
    ∃ d, ((replay pre).2.serve q).1 = .ok d ∧
      Answers limit span (recentTimes pre k span q.now) q.now d := by
  obtain ⟨hlim, hspan⟩ := hkey q (List.mem_append_right _ (List.mem_singleton_self q)) hk
  have hT := tracks_replay (List.pairwise_append.mp hs).1
    (fun r hr => hkey r (List.mem_append_left _ hr)) hl h0 h1
  have hle : ∀ r ∈ admitted pre, r.now ≤ q.now := fun r hr =>
    (List.pairwise_append.mp hs).2.2 r ((admitted_sublist pre).subset hr) q
      (List.mem_singleton_self q)
  have hdec := (hT.same hs hk hlim hspan hl h0 h1).1
  have hrecent : (admittedTimes k pre).filter (fun s => decide (q.now.nanos - span < s.nanos)) =
      recentTimes pre k span q.now := admittedTimes_window k span hle
  rw [hrecent] at hdec
  -- the recent times are sorted and none is later than `q`
  have hsorted : (recentTimes pre k span q.now).Pairwise (· ≤ ·) := by
    rw [← hrecent]
    exact (admittedTimes_sorted k (List.pairwise_append.mp hs).1).sublist List.filter_sublist
  have hbefore : ∀ s ∈ recentTimes pre k span q.now, s ≤ q.now := by
    intro s hsm
    obtain ⟨r, hr, rfl⟩ := List.mem_map.mp hsm
    exact hle r (List.mem_filter.mp hr).1
  have holdest := head?_getD_oldest hsorted hbefore
  by_cases hfull : limit ≤ (recentTimes pre k span q.now).length
  · rw [if_pos hfull] at hdec
    exact ⟨_, hdec, by simp; omega, by simp⟩
  · rw [if_neg hfull] at hdec
    refine ⟨_, hdec, by simp; omega, fun _ => ⟨rfl, by simp; omega, _, holdest.1, rfl, holdest.2⟩⟩

end History

/-- The sliding window over every history whose clock never goes back, for a key served with
one limit of at least one and one positive span that is a 64-bit duration: each request of the
key is counted without failing and answered by the sliding-window rule on the requests allowed
before it, and no interval of one span, open at either end, holds more than `limit` allowed
requests of the key. -/
theorem window_allows_exactly_the_recent (qs : List Request) (k : String) (limit span : Int)
    (hs : qs.Pairwise (·.now ≤ ·.now))
    (hkey : ∀ r ∈ qs, r.key = k → r.limit = limit ∧ r.span = span)
    (hl : 1 ≤ limit) (h0 : 0 < span) (h1 : span < Int.pow 2 63) :
    (∀ pre q post, qs = pre ++ q :: post → q.key = k →
      ∃ d, ((replay pre).2.serve q).1 = .ok d ∧
        Answers limit span (recentTimes pre k span q.now) q.now d) ∧
    ∀ a : Int,
      (((admitted qs).filter fun r =>
          r.key = k ∧ a < r.now.nanos ∧ r.now.nanos ≤ a + span).length : Int) ≤ limit ∧
      (((admitted qs).filter fun r =>
          r.key = k ∧ a ≤ r.now.nanos ∧ r.now.nanos < a + span).length : Int) ≤ limit := by
  refine ⟨fun pre q post hsplit hk => ?_, fun a => ⟨?_, ?_⟩⟩
  · -- the history up to `q` is a prefix of the whole one
    have hpre : (pre ++ [q]).Sublist qs := by
      rw [hsplit, show pre ++ q :: post = pre ++ [q] ++ post by simp]
      exact List.sublist_append_left _ _
    exact serve_answers pre q (hs.sublist hpre) (fun r hr => hkey r (hpre.subset hr)) hk hl h0 h1
  · refine admitted_cluster_le hs hkey hl h0 h1 (fun s => a < s.nanos ∧ s.nanos ≤ a + span) ?_
    intro s t hs' ht' _
    omega
  · refine admitted_cluster_le hs hkey hl h0 h1 (fun s => a ≤ s.nanos ∧ s.nanos < a + span) ?_
    intro s t hs' ht' _
    omega

/-- Three requests of one key a few nanoseconds apart, with room for two in a span of ten. -/
def sampleRequests : List Request :=
  [⟨"alice", 2, 10, ⟨0⟩⟩, ⟨"bob", 1, 3, ⟨4⟩⟩, ⟨"alice", 2, 10, ⟨5⟩⟩, ⟨"alice", 2, 10, ⟨9⟩⟩]

theorem window_counts_sample_requests :
    sampleRequests.Pairwise (·.now ≤ ·.now) ∧
      (∀ r ∈ sampleRequests, r.key = "alice" → r.limit = 2 ∧ r.span = 10) ∧
      (1 : Int) ≤ 2 ∧ (0 : Int) < 10 ∧ (10 : Int) < Int.pow 2 63 ∧
      (∀ pre q post, sampleRequests = pre ++ q :: post → q.key = "alice" →
        ∃ d, ((replay pre).2.serve q).1 = .ok d ∧
          Answers 2 10 (recentTimes pre "alice" 10 q.now) q.now d) ∧
      ∀ a : Int,
        (((admitted sampleRequests).filter fun r =>
            r.key = "alice" ∧ a < r.now.nanos ∧ r.now.nanos ≤ a + 10).length : Int) ≤ 2 ∧
        (((admitted sampleRequests).filter fun r =>
            r.key = "alice" ∧ a ≤ r.now.nanos ∧ r.now.nanos < a + 10).length : Int) ≤ 2 :=
  ⟨by decide, by decide, by decide, by decide, by decide,
    window_allows_exactly_the_recent sampleRequests "alice" 2 10 (by decide) (by decide)
      (by decide) (by decide) (by decide)⟩

end Window

end CampusLedger.Throttle
