import CampusLedger.Proofs.Act
import CampusLedger.Stream.Consumer
/-!
# A consumer commits settled prefixes of its fetches

A consumer run goes through the fetches in order. In each fetch it tries the records in fetch
order, each until the handler accepts it or the attempts run out, and then makes one commit of
the records it is done with. For every handler that always answers (accepting or refusing as it
likes, attempt by attempt) and every retry policy with at least one attempt, the run's calls
are made of passes, one per fetch it went through (`Pass`):

* each record is tried at least once and at most the allowed number of times, and never again
  after the handler accepted it;
* a pass tried a prefix of its fetch and commits a prefix of it, made of records that were
  accepted or tried the allowed number of times (`Pass.Fits`, `Pass.settled`);
* only the last pass may stop short of its fetch, and a run that is never cancelled takes every
  fetch whole, so each record is in exactly one commit, made after its whole fetch;
* no attempt follows the one after which the run is cancelled, and a run cancelled from the
  start makes no call.

The proof follows the consumer's own layers: one attempt, the tries of one record
(`tryRecord_ok`), the records of one fetch (`foldlM_handleRecord_ok`), and the fetches
(`consume_ok`). What the layers share is the count of attempts against the point of
cancellation (`Log.Steady`).
-/

namespace CampusLedger.Stream

open Act

variable {α : Type}

/-- The attempts at one record, in order: the handler's report and refusal at each. -/
abbrev Tries (α : Type) := List (α × Option Failure)

def Tries.calls (r : Record) (ts : Tries α) : List (Call α) :=
  ts.map fun t => .attempt r t.1 t.2

/-- Tries a consumer allowed `n` attempts may make at one record: at least one and at most `n`,
each refused but the last. -/
def Tries.Allowed (n : Nat) (ts : Tries α) : Prop :=
  ts ≠ [] ∧ ts.length ≤ n ∧ ∀ t ∈ ts.dropLast, t.2.isSome

/-- Whether tries settle their record: the handler accepted the last, or all `n` were made. -/
def Tries.settles (n : Nat) (ts : Tries α) : Bool :=
  (ts.getLast?.map (·.2.isNone)).getD false || ts.length == n

/-- How a consumer went through one fetch: the records it tried, in fetch order, each with its
tries, and the failure of its commit when the commit failed. -/
structure Pass (α : Type) where
  tried : List (Record × Tries α)
  commitFailure : Option Failure

/-- The records a pass settled, in order: those it commits. -/
def Pass.settled (n : Nat) (x : Pass α) : List Record :=
  (x.tried.filter fun t => t.2.settles n).map (·.1)

/-- The calls of a pass: the tries of each record in order, then one commit of the settled
records when there are any. -/
def Pass.calls (n : Nat) (x : Pass α) : List (Call α) :=
  x.tried.flatMap (fun t => Tries.calls t.1 t.2) ++
    if x.settled n = [] then []
    else [.commit { offsets := (x.settled n).map (·.offset), failure := x.commitFailure }]

/-- A pass fits its fetch: it tried a prefix of the fetch's records, each within the allowed
attempts, and settled every one of them but the last. -/
structure Pass.Fits (n : Nat) (fetch : List Record) (x : Pass α) : Prop where
  front : (x.tried.map (·.1)).IsPrefix fetch
  allowed : ∀ t ∈ x.tried, t.2.Allowed n
  settledButLast : ∀ t ∈ x.tried.dropLast, t.2.settles n = true

/-- A pass takes its whole fetch: it tried every record and settled each. -/
structure Pass.Whole (n : Nat) (fetch : List Record) (x : Pass α) : Prop where
  all : x.tried.map (·.1) = fetch
  settledAll : ∀ t ∈ x.tried, t.2.settles n = true

/-- The count of attempts against the point of cancellation: the run never went past it, and
reaching it cancelled the run. -/
def Log.Steady (p : Policy) (l : Log α) : Prop :=
  ∀ N, p.cancelAfter = some N → 0 < N → l.attempts.length ≤ N ∧ (l.attempts.length = N → l.cancelled = true)

variable {p : Policy} {h : Handler α}

theorem attempts_append (l : Log α) (cs : List (Call α)) (b : Bool) :
    ({ calls := l.calls ++ cs, cancelled := b } : Log α).attempts =
      l.attempts ++ cs.filterMap Call.attempt? := by
  simp [Log.attempts, List.filterMap_append]

/-- The log after an attempt at `r` that the handler answered with `a` and refusal `f`: the
run is cancelled when this is the attempt the policy cancels after. -/
def Log.attempted (p : Policy) (l : Log α) (r : Record) (a : α) (f : Option Failure) : Log α :=
  { calls := l.calls ++ [.attempt r a f],
    cancelled := l.cancelled || p.cancelAfter == some (l.attempts.length + 1) }

@[simp] theorem Log.attempted_calls (l : Log α) (r : Record) (a : α) (f : Option Failure) :
    (l.attempted p r a f).calls = l.calls ++ [.attempt r a f] := rfl

/-- One attempt appends its call, and cancels the run when it is the attempt of the policy. -/
theorem attemptOnce_ok {r : Record} {a : α} {f : Option Failure} {c c' : Campus}
    (hr : (h r).exec c = (.ok (a, f), c')) (l : Log α) :
    (attemptOnce p h r l).exec c = (.ok (f, l.attempted p r a f), c') := by
  unfold attemptOnce
  rw [step_bind, step_lift, hr]
  rfl

/-- An attempt made before the run was cancelled keeps the count steady. -/
theorem Log.Steady.attempt {l : Log α} (hs : l.Steady p) (hl : l.cancelled = false) (r : Record)
    (a : α) (f : Option Failure) : (l.attempted p r a f).Steady p := by
  intro N hN hpos
  obtain ⟨hle, hreach⟩ := hs N hN hpos
  have hlt : l.attempts.length < N := by
    rcases Nat.lt_or_eq_of_le hle with hlt | heq
    · exact hlt
    · rw [hreach heq] at hl
      cases hl
  unfold Log.attempted
  rw [attempts_append]
  simp only [List.filterMap_cons, Call.attempt?, List.filterMap_nil, List.length_append,
    List.length_singleton]
  refine ⟨by omega, fun heq => ?_⟩
  simp [hN, heq]

/-- The handler always answers, accepting or refusing; it never fails outright. -/
def Answers (h : Handler α) : Prop := ∀ r c, ∃ v c', (h r).exec c = (.ok v, c')

/-- The tries of a record in a run not yet cancelled, with `left` attempts allowed: they are
allowed tries, the answer is whether they settle the record, and a record they leave unsettled
was cut short by the cancellation. -/
theorem tryRecord_ok (hh : Answers h) (r : Record) :
    ∀ (left : Nat) (l : Log α) (c : Campus), 0 < left → l.cancelled = false → l.Steady p →
      ∃ ts b l' c', (tryRecord p h r left l).exec c = (.ok (b, l'), c') ∧
        l'.calls = l.calls ++ Tries.calls r ts ∧ ts.Allowed left ∧ b = ts.settles left ∧
        (b = false → l'.cancelled = true) ∧ l'.Steady p := by
  intro left
  induction left with
  | zero => intro l c hpos; omega
  | succ left ih =>
    intro l c _ hl hs
    obtain ⟨⟨a, f⟩, c₁, hr⟩ := hh r c
    have hrun := attemptOnce_ok (p := p) hr l
    have hs₁ := hs.attempt hl r a f
    generalize hl₁ : l.attempted p r a f = l₁ at hrun hs₁
    unfold tryRecord
    rw [step_bind, hrun]
    cases f with
    | none =>
      -- accepted at once: the record settles
      refine ⟨[(a, none)], true, l₁, c₁, rfl, by rw [← hl₁]; rfl, ⟨by simp, by simp, by simp⟩, by simp [Tries.settles],
        by simp, hs₁⟩
    | some e =>
      by_cases h0 : left = 0
      · -- refused at the last attempt allowed: dropped, and settled all the same
        subst h0
        refine ⟨[(a, some e)], true, l₁, c₁, rfl, by rw [← hl₁]; rfl, ⟨by simp, by simp, by simp⟩,
          by simp [Tries.settles], by simp, hs₁⟩
      · by_cases hc : l₁.cancelled = true
        · -- refused with attempts left, but the run was cancelled: the retry never comes
          refine ⟨[(a, some e)], false, l₁, c₁, ?_, by rw [← hl₁]; rfl, ⟨by simp, by simp, by simp⟩,
            by simp [Tries.settles]; omega, fun _ => hc, hs₁⟩
          simp only [beq_iff_eq, h0, if_false, step_bind, step_get, hc, if_true]
          rfl
        · have hc' : l₁.cancelled = false := by simpa using hc
          obtain ⟨ts, b, l', c', hrun', hcalls, ⟨hne, hlen, hrefused⟩, hb, hcan, hst⟩ :=
            ih l₁ c₁ (by omega) hc' hs₁
          refine ⟨(a, some e) :: ts, b, l', c', ?_, ?_, ⟨by simp, by simp; omega, ?_⟩, ?_, hcan, hst⟩
          · simp only [beq_iff_eq, h0, if_false, step_bind, step_get, hc', Bool.false_eq_true]
            exact hrun'
          · rw [hcalls, ← hl₁]
            simp [Tries.calls]
          · -- the refused first attempt comes before every try but the last
            intro t ht
            rw [List.dropLast_cons_of_ne_nil hne] at ht
            rcases List.mem_cons.mp ht with rfl | ht
            · rfl
            · exact hrefused t ht
          · rw [hb]
            simp only [Tries.settles, List.getLast?_cons, List.length_cons]
            cases hlast : ts.getLast? with
            | none => exact absurd (List.getLast?_eq_none_iff.mp hlast) hne
            | some x => simp

theorem handleRecord_cancelled {l : Log α} (hl : l.cancelled = true) (done : List Record)
    (r : Record) (c : Campus) : (handleRecord p h done r l).exec c = (.ok (done, l), c) := by
  unfold handleRecord
  simp only [step_bind, step_get, hl, if_true]
  rfl

theorem handleRecord_ok (hh : Answers h) (hp : 0 < p.attempts) {l : Log α}
    (hl : l.cancelled = false) (hs : l.Steady p) (done : List Record) (r : Record) (c : Campus) :
    ∃ ts l' c', (handleRecord p h done r l).exec c =
        (.ok (if ts.settles p.attempts then done ++ [r] else done, l'), c') ∧
      l'.calls = l.calls ++ Tries.calls r ts ∧ ts.Allowed p.attempts ∧
      (ts.settles p.attempts = false → l'.cancelled = true) ∧ l'.Steady p := by
  obtain ⟨ts, b, l', c', hrun, hcalls, hall, hb, hcan, hst⟩ := tryRecord_ok hh r p.attempts l c hp hl hs
  refine ⟨ts, l', c', ?_, hcalls, hall, hb ▸ hcan, hst⟩
  unfold handleRecord
  simp only [step_bind, step_get, hl, Bool.false_eq_true, if_false, hrun, ← hb]
  cases b <;> rfl

/-- Settling every tried record but the last leaves the settled ones a prefix of the tried. -/
theorem filter_isPrefix_of_dropLast {β : Type} {P : β → Bool} :
    ∀ {l : List β}, (∀ t ∈ l.dropLast, P t = true) → (l.filter P).IsPrefix l
  | [], _ => List.nil_prefix
  | [x], _ => by
    by_cases hx : P x = true
    · simp [hx]
    · simp [hx]
  | x :: y :: rest, h => by
    have hx : P x = true := h x (by simp)
    have hrest : ∀ t ∈ (y :: rest).dropLast, P t = true := fun t ht =>
      h t (by rw [List.dropLast_cons_cons]; exact List.mem_cons_of_mem _ ht)
    rw [List.filter_cons_of_pos hx]
    exact List.cons_prefix_cons.mpr ⟨rfl, filter_isPrefix_of_dropLast hrest⟩

/-- The records of a fetch, from any point of a run: the tried ones are a prefix of them, each
with allowed tries and all but the last settled; the ones done are the settled ones; a run not
cancelled by the end tried and settled them all; and a run cancelled before them tries none. -/
theorem foldlM_handleRecord_ok (hh : Answers h) (hp : 0 < p.attempts) :
    ∀ (records acc : List Record) (l : Log α) (c : Campus), l.Steady p →
      ∃ (tried : List (Record × Tries α)) (l' : Log α) (c' : Campus),
        (records.foldlM (handleRecord p h) acc l).exec c =
          (.ok (acc ++ (tried.filter fun t => t.2.settles p.attempts).map (·.1), l'), c') ∧
        l'.calls = l.calls ++ tried.flatMap (fun t => Tries.calls t.1 t.2) ∧
        (tried.map (·.1)).IsPrefix records ∧ (∀ t ∈ tried, t.2.Allowed p.attempts) ∧
        (∀ t ∈ tried.dropLast, t.2.settles p.attempts = true) ∧
        (l'.cancelled = false →
          tried.map (·.1) = records ∧ ∀ t ∈ tried, t.2.settles p.attempts = true) ∧
        (l.cancelled = true → tried = [] ∧ l' = l) ∧ l'.Steady p := by
  intro records
  induction records with
  | nil =>
    intro acc l c hs
    refine ⟨[], l, c, by simp, by simp, List.nil_prefix, by simp, by simp, ?_, by simp, hs⟩
    intro _
    simp
  | cons r rest ih =>
    intro acc l c hs
    rw [List.foldlM_cons, step_bind]
    cases hl : l.cancelled with
    | true =>
      -- a cancelled run skips this record and every later one
      rw [handleRecord_cancelled hl]
      obtain ⟨tried, l', c', hrun, -, -, -, -, -, hstay, -⟩ := ih acc l c hs
      obtain ⟨rfl, hl'⟩ := hstay hl
      rw [hl'] at hrun
      refine ⟨[], l, c', by simpa using hrun, by simp, List.nil_prefix, by simp, by simp, ?_,
        fun _ => ⟨rfl, rfl⟩, hs⟩
      intro hc
      rw [hl] at hc
      cases hc
    | false =>
      obtain ⟨ts, l₁, c₁, hrun₁, hcalls₁, hall₁, hcan₁, hs₁⟩ := handleRecord_ok hh hp hl hs acc r c
      rw [hrun₁]
      obtain ⟨tried, l', c', hrun, hcalls, hfront, hall, hlast, hlive, hstay, hst⟩ :=
        ih (if ts.settles p.attempts then acc ++ [r] else acc) l₁ c₁ hs₁
      refine ⟨(r, ts) :: tried, l', c', ?_, ?_, ?_, ?_, ?_, ?_, ?_, hst⟩
      · refine hrun.trans ?_
        cases hset : ts.settles p.attempts <;> simp [hset]
      · rw [hcalls, hcalls₁]
        simp
      · simpa using (List.cons_prefix_cons (a := r)).mpr ⟨rfl, hfront⟩
      · intro t ht
        rcases List.mem_cons.mp ht with rfl | ht
        · exact hall₁
        · exact hall t ht
      · -- a record left unsettled cancelled the run, so no record came after it
        intro t ht
        cases tried with
        | nil => simp at ht
        | cons u us =>
          rw [List.dropLast_cons_cons] at ht
          rcases List.mem_cons.mp ht with rfl | ht
          · cases hset : ts.settles p.attempts
            · exact absurd (hstay (hcan₁ hset)).1 (List.cons_ne_nil u us)
            · rfl
          · exact hlast t ht
      · intro hc
        obtain ⟨hall', hset'⟩ := hlive hc
        have hset : ts.settles p.attempts = true := by
          cases hset : ts.settles p.attempts
          · rw [(hstay (hcan₁ hset)).2, hcan₁ hset] at hc
            cases hc
          · rfl
        refine ⟨by simp [hall'], fun t ht => ?_⟩
        rcases List.mem_cons.mp ht with rfl | ht
        · exact hset
        · exact hset' t ht
      · intro hc
        cases hc

/-- Calls that are no attempt keep the count steady. -/
theorem Log.Steady.append {l : Log α} (hs : l.Steady p) (cs : List (Call α))
    (hcs : cs.filterMap Call.attempt? = []) : ({ l with calls := l.calls ++ cs } : Log α).Steady p := by
  intro N hN hpos
  rw [attempts_append, hcs, List.append_nil]
  exact hs N hN hpos

/-- The end of a fetch commits the records done, when there are any, with whatever failure the
faults armed on the commit give. -/
theorem commitDone_ok {β : Type} (done : List Record) (next : Consuming α β) (l : Log α)
    (c : Campus) : ∃ (f : Option Failure) (c₂ : Campus),
      ((if (!done.isEmpty) = true then do commit done; next else next) l).exec c =
        (next { l with calls := l.calls ++ if done = [] then [] else
          [.commit { offsets := done.map (·.offset), failure := f }] }).exec c₂ := by
  cases done with
  | nil => exact ⟨none, c, by simp⟩
  | cons r rs =>
    simp only [List.isEmpty_cons, Bool.not_false, if_true, reduceCtorEq, if_false, step_bind]
    unfold commit
    rw [step_bind, step_lift, exec_tripped]
    exact ⟨_, _, rfl⟩

theorem consume_cancelled {l : Log α} (hl : l.cancelled = true) (bs : List (List Record))
    (c : Campus) : ∃ k, (consume p h bs l).exec c = (.ok (k, l), c) := by
  cases bs with
  | nil => exact ⟨0, rfl⟩
  | cons batch rest =>
    unfold consume
    simp only [step_bind, step_get, hl]
    exact ⟨_, rfl⟩

/-- How the passes of a run lie over its fetches `bs`: one pass per fetch it went through, in
order, each fitting its fetch; every pass but the last takes its whole fetch, and a run that
ends uncancelled took every fetch whole. -/
structure Pass.Cover (n : Nat) (bs : List (List Record)) (passes : List (Pass α))
    (cancelled : Bool) : Prop where
  fewer : passes.length ≤ bs.length
  fits : ∀ x ∈ passes.zip bs, x.1.Fits n x.2
  wholeButLast : ∀ x ∈ (passes.zip bs).dropLast, x.1.Whole n x.2
  live : cancelled = false → passes.length = bs.length ∧ ∀ x ∈ passes.zip bs, x.1.Whole n x.2

theorem Pass.Cover.none {n : Nat} {bs : List (List Record)} {b : Bool}
    (hb : bs = [] ∨ b = true) : Pass.Cover (α := α) n bs [] b where
  fewer := Nat.zero_le _
  fits := by simp
  wholeButLast := by simp
  live := fun hc => by
    rcases hb with rfl | rfl
    · simp
    · cases hc

/-- A pass that fits its fetch, in front of the passes of the later fetches; it takes its whole
fetch when a later pass follows or the run ends uncancelled. -/
theorem Pass.Cover.cons {n : Nat} {batch : List Record} {rest : List (List Record)} {x : Pass α}
    {passes : List (Pass α)} {b : Bool} (hx : x.Fits n batch)
    (hwhole : passes ≠ [] ∨ b = false → x.Whole n batch) (hc : Pass.Cover n rest passes b) :
    Pass.Cover n (batch :: rest) (x :: passes) b where
  fewer := by simpa using hc.fewer
  fits := by
    intro y hy
    rcases List.mem_cons.mp (List.zip_cons_cons ▸ hy) with rfl | hy
    · exact hx
    · exact hc.fits y hy
  wholeButLast := by
    intro y hy
    rw [List.zip_cons_cons] at hy
    cases hz : passes.zip rest with
    | nil => simp [hz] at hy
    | cons z zs =>
      rw [hz, List.dropLast_cons_cons] at hy
      rcases List.mem_cons.mp hy with rfl | hy
      · refine hwhole (.inl ?_)
        rintro rfl
        simp at hz
      · exact hc.wholeButLast y (hz ▸ hy)
  live := by
    intro hb
    obtain ⟨hlen, hall⟩ := hc.live hb
    refine ⟨by simp [hlen], fun y hy => ?_⟩
    rcases List.mem_cons.mp (List.zip_cons_cons ▸ hy) with rfl | hy
    · exact hwhole (.inr hb)
    · exact hall y hy

/-- The fetches of a run from any point: the calls are those of one pass per fetch gone
through, and the passes cover the fetches; a run already cancelled makes no call. -/
theorem consume_ok (hh : Answers h) (hp : 0 < p.attempts) :
    ∀ (bs : List (List Record)) (l : Log α) (c : Campus), l.Steady p →
      ∃ (passes : List (Pass α)) (k : Nat) (l' : Log α) (c' : Campus),
        (consume p h bs l).exec c = (.ok (k, l'), c') ∧
        l'.calls = l.calls ++ passes.flatMap (Pass.calls p.attempts) ∧
        Pass.Cover p.attempts bs passes l'.cancelled ∧
        (l.cancelled = true → passes = [] ∧ l' = l) ∧ l'.Steady p := by
  intro bs
  induction bs with
  | nil =>
    intro l c hs
    exact ⟨[], 0, l, c, rfl, by simp, Pass.Cover.none (.inl rfl), fun _ => ⟨rfl, rfl⟩, hs⟩
  | cons batch rest ih =>
    intro l c hs
    cases hl : l.cancelled with
    | true =>
      -- cancelled before this poll: the run ends here
      obtain ⟨k, hrun⟩ := consume_cancelled (h := h) hl (batch :: rest) c
      exact ⟨[], k, l, c, hrun, by simp, Pass.Cover.none (.inr hl), fun _ => ⟨rfl, rfl⟩, hs⟩
    | false =>
      obtain ⟨tried, l₁, c₁, hrun₁, hcalls₁, hfront, hall, hlast, hlive, -, hs₁⟩ :=
        foldlM_handleRecord_ok hh hp batch [] l c hs
      obtain ⟨f, c₂, hrun₂⟩ := commitDone_ok ((tried.filter fun t => t.2.settles p.attempts).map (·.1))
        (consume p h rest) l₁ c₁
      let x : Pass α := ⟨tried, f⟩
      have hs₂ := hs₁.append (if x.settled p.attempts = [] then [] else
        [.commit { offsets := (x.settled p.attempts).map (·.offset), failure := f }])
        (by split <;> rfl)
      obtain ⟨passes, k, l', c', hrun, hcalls, hcover, hstay, hst⟩ := ih _ c₂ hs₂
      -- a later pass, or a run ending uncancelled, means this fetch ended uncancelled
      have hwhole : passes ≠ [] ∨ l'.cancelled = false → x.Whole p.attempts batch := by
        intro hlater
        have hc₁ : l₁.cancelled = false := by
          cases hc₁ : l₁.cancelled
          · rfl
          · obtain ⟨rfl, rfl⟩ := hstay hc₁
            simp [hc₁] at hlater
        obtain ⟨hmap, hset⟩ := hlive hc₁
        exact ⟨hmap, hset⟩
      refine ⟨x :: passes, k, l', c', ?_, ?_, hcover.cons ⟨hfront, hall, hlast⟩ hwhole,
        ?_, hst⟩
      · unfold consume
        simp only [step_bind, step_get, hl, Bool.false_eq_true, if_false, handleBatch, hrun₁]
        rw [List.nil_append, hrun₂]
        exact hrun
      · rw [hcalls, hcalls₁]
        simp [Pass.calls, Pass.settled, x]
      · intro hc
        cases hc

/-- A pass that fits its fetch commits a prefix of it. -/
theorem Pass.Fits.settled_isPrefix {n : Nat} {fetch : List Record} {x : Pass α}
    (hx : x.Fits n fetch) : (x.settled n).IsPrefix fetch :=
  ((filter_isPrefix_of_dropLast hx.settledButLast).map Prod.fst).trans hx.front

/-- A pass that takes its whole fetch commits all of it. -/
theorem Pass.Whole.settled_eq {n : Nat} {fetch : List Record} {x : Pass α}
    (hx : x.Whole n fetch) : x.settled n = fetch := by
  rw [Pass.settled, List.filter_eq_self.mpr hx.settledAll, hx.all]

/-- What a consumer run with policy `p` over the fetches `bs` did, ending with log `l`: its
calls are those of `passes`, one per fetch it went through, and they cover the fetches; every
commit is of a prefix of its fetch, and of the whole fetch when the run ends uncancelled; and no
attempt came after the one the run is cancelled after. -/
structure Consumed (p : Policy) (bs : List (List Record)) (passes : List (Pass α)) (l : Log α) :
    Prop where
  calls : l.calls = passes.flatMap (Pass.calls p.attempts)
  cover : Pass.Cover p.attempts bs passes l.cancelled
  committedPrefix : ∀ x ∈ passes.zip bs, (x.1.settled p.attempts).IsPrefix x.2
  committedWhole : l.cancelled = false → ∀ x ∈ passes.zip bs, x.1.settled p.attempts = x.2
  attemptsBounded : ∀ N, p.cancelAfter = some N → 0 < N → l.attempts.length ≤ N

/-- A consumer run from the start, for every handler that always answers and every policy with
at least one attempt, lays out as passes over its fetches. -/
theorem consumer_commits_settled_prefixes (hh : Answers h) (hp : 0 < p.attempts)
    (bs : List (List Record)) (c : Campus) :
    ∃ (passes : List (Pass α)) (k : Nat) (l : Log α) (c' : Campus),
      (consume p h bs {}).exec c = (.ok (k, l), c') ∧ Consumed p bs passes l := by
  have hs : ({} : Log α).Steady p := fun N _ hpos => by
    refine ⟨Nat.zero_le _, fun h0 => ?_⟩
    simp [Log.attempts] at h0
    omega
  obtain ⟨passes, k, l, c', hrun, hcalls, hcover, -, hst⟩ := consume_ok hh hp bs {} c hs
  refine ⟨passes, k, l, c', hrun, ⟨by simpa using hcalls, hcover, ?_, ?_, ?_⟩⟩
  · intro x hx
    exact (hcover.fits x hx).settled_isPrefix
  · intro hlive x hx
    exact ((hcover.live hlive).2 x hx).settled_eq
  · intro N hN hpos
    exact (hst N hN hpos).1

/-- A handler that refuses the record at offset zero and accepts every other. -/
def refuseFirst : Handler Unit :=
  fun r => pure ((), if r.offset == 0 then some (.injected "handler") else none)

theorem refuseFirst_consumed_twice :
    Answers refuseFirst ∧ 0 < ({ attempts := 2 } : Policy).attempts ∧
      ∃ (passes : List (Pass Unit)) (k : Nat) (l : Log Unit) (c' : Campus),
        (consume { attempts := 2 } refuseFirst [[⟨0, "a", []⟩, ⟨1, "b", []⟩], [⟨2, "c", []⟩]] {}).exec
            (Campus.fresh {} 0) = (.ok (k, l), c') ∧
          Consumed { attempts := 2 } [[⟨0, "a", []⟩, ⟨1, "b", []⟩], [⟨2, "c", []⟩]] passes l :=
  ⟨fun _ _ => ⟨_, _, rfl⟩, by decide,
    consumer_commits_settled_prefixes (fun _ _ => ⟨_, _, rfl⟩) (by decide) _ _⟩

end CampusLedger.Stream
