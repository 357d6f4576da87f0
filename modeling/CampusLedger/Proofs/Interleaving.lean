import CampusLedger.Proofs.AuditTrail
/-!
# Calls that publish after the lock

A mutating call of a ledger runs its transaction under the ledger's write lock and, once the
lock is released, sets its gauge and publishes its audit event from what the transaction handed
over (`Posting`). Concurrent calls therefore interleave at two points each. An `Interleaving`
runs calls under a schedule that names, move after move, the call that goes next: its first
move commits the transaction, its second publishes.

Through an open audit queue, with a capacity or without, the events of an interleaving are
lodged in the order the publishing steps ran (`Lodges.run`): a queue that is not held stores
each at once, a held one keeps them waiting in that order until it is full and drops the rest
(`Lodged`). A figure of the books that each commit sets to what it posts, or keeps, is after
any run the one posted by the last commit to set it (`Tallied.run`), whatever the queue does. A
serial schedule, which publishes each call right after its commit, publishes in commit order
(`serial_publishes`).
-/

namespace CampusLedger

open Act

/-- What a call's transaction hands to the step that runs once the write lock is released: the
request, the event to publish, the gauge to set with its new value, and the units moved in or
out. -/
structure Posting where
  ctx : Context
  event : Audit.Event
  gauge : Option (String × Nat) := none
  moved : Option (String × Nat) := none

namespace Audit.Outbox

/-- Whether the queue holds back what is published: it has a capacity and its store is held. -/
def holding (o : Outbox) : Bool := o.queued && o.held

/-- How many more events a held queue keeps waiting before it drops them. -/
def room (o : Outbox) : Nat := o.capacity + 1 - o.waiting.length

variable {o : Outbox}

theorem accept_at_once (e : Event) (hc : o.closed = false) (h : o.holding = false) :
    o.accept e = (.deliver, o) := by
  unfold accept
  cases hq : o.queued <;> simp_all [holding]

theorem accept_held (e : Event) (hc : o.closed = false) (h : o.holding = true) :
    o.accept e =
      if 0 < o.room then (.wait, { o with waiting := o.waiting ++ [e] }) else (.drop, o) := by
  simp only [holding, Bool.and_eq_true] at h
  simp [accept, h.1, h.2, hc, room]

end Audit.Outbox

/-- A campus whose services publish through an open audit queue: they are audited, the queue is
not closed, and no fault is armed at the journal's store. The queue may have a capacity, and its
store may be held. -/
structure Campus.OpenAudit (c : Campus) : Prop where
  audited : c.wiring.audited = true
  unclosed : c.outbox.closed = false
  store : c.faults.countOf "audit.Append" = 0

namespace Act

/-- The audit queue and its count of drops stay. -/
def Frame.queued : Frame where
  rel c c' := c'.outbox = c.outbox ∧ c'.dropped = c.dropped
  refl _ := ⟨rfl, rfl⟩
  trans h₁ h₂ := ⟨h₂.1.trans h₁.1, h₂.2.trans h₁.2⟩

theorem Frame.queued_relays : Frame.queued.Relays where
  tripped _ _ := ⟨rfl, rfl⟩
  metrics _ _ := ⟨rfl, rfl⟩
  streamed _ _ := ⟨rfl, rfl⟩
  hub _ _ := ⟨rfl, rfl⟩

theorem queued_write (e : Audit.Event) : Within Frame.queued (write e) := by
  unfold write
  refine within_bind (within_tripped Frame.queued_relays.toPasses _) fun hit => ?_
  cases hit
  · exact within_bind (within_modify fun _ => ⟨rfl, rfl⟩) fun _ =>
      within_relayed Frame.queued_relays e
  · exact within_pure _

/-- The audit side stays: the journal, the queue and its drops, the wiring, and no call site is
armed that was not. What a transaction keeps. -/
def Frame.audit : Frame where
  rel c c' := c'.journal = c.journal ∧ Frame.queued.rel c c' ∧ Frame.wired.rel c c'
  refl c := ⟨rfl, Frame.queued.refl c, Frame.wired.refl c⟩
  trans h₁ h₂ := ⟨h₂.1.trans h₁.1, Frame.queued.trans h₁.2.1 h₂.2.1,
    Frame.wired.trans h₁.2.2 h₂.2.2⟩

theorem Frame.audit_steps : Frame.audit.Steps where
  tripped c site := ⟨rfl, ⟨rfl, rfl⟩, Frame.wired_untouched.tripped c site⟩
  metrics c m := ⟨rfl, ⟨rfl, rfl⟩, Frame.wired_untouched.metrics c m⟩
  issued c n := ⟨rfl, ⟨rfl, rfl⟩, Frame.wired_untouched.issued c n⟩
  bank c b := ⟨rfl, ⟨rfl, rfl⟩, Frame.wired_untouched.bank c b⟩
  reputation c b := ⟨rfl, ⟨rfl, rfl⟩, Frame.wired_untouched.reputation c b⟩
  staking c b := ⟨rfl, ⟨rfl, rfl⟩, Frame.wired_untouched.staking c b⟩

variable {c : Campus}

/-- With no fault armed at the store, storing an event appends it to the journal and leaves the
queue. -/
theorem write_lodges (e : Audit.Event) (hc : c.faults.countOf "audit.Append" = 0) :
    ∃ c', (write e).exec c = (.ok (), c') ∧ c'.journal = c.journal.append e ∧
      Frame.queued.rel c c' := by
  obtain ⟨c', hw, hj⟩ := write_stores e hc
  have hq := queued_write e c
  rw [hw] at hq
  exact ⟨c', hw, hj, hq⟩

end Act

variable {c c' : Campus}

theorem Campus.OpenAudit.wired (hc : c.OpenAudit) (h : Frame.wired.rel c c') : c'.OpenAudit where
  audited := by rw [h.1]; exact hc.audited
  unclosed := h.2.2.1.trans hc.unclosed
  store := h.2.2.2 _ hc.store

/-- What an open audit queue makes of events with the records `rs`, published in turn from `c`
to `c'`: a queue that is not held stores each at once; a held one keeps them waiting, in turn,
until it is full, changing nothing else of itself, and drops and counts the rest. -/
structure Lodged (c c' : Campus) (rs : List Audit.Record) : Prop where
  atOnce : c.outbox.holding = false →
    c'.journal.records = c.journal.records ++ rs ∧ c'.outbox = c.outbox ∧ c'.dropped = c.dropped
  held : c.outbox.holding = true →
    c'.journal = c.journal ∧ c'.outbox = { c.outbox with waiting := c'.outbox.waiting } ∧
      c'.outbox.waiting.map Audit.Event.record =
        c.outbox.waiting.map Audit.Event.record ++ rs.take c.outbox.room ∧
      c'.dropped = c.dropped + (rs.length - c.outbox.room)

namespace Lodged

variable {c₁ c₂ c₃ : Campus} {rs rs' : List Audit.Record}

theorem of_audit (h : Frame.audit.rel c c') : Lodged c c' [] where
  atOnce _ := ⟨by rw [h.1, List.append_nil], h.2.1.1, h.2.1.2⟩
  held _ := ⟨h.1, by rw [h.2.1.1], by rw [h.2.1.1, List.take_nil, List.append_nil],
    by simp [h.2.1.2]⟩

/-- Events lodged after others follow them: a held queue has as much less room as it kept. -/
theorem trans (h₁ : Lodged c₁ c₂ rs) (h₂ : Lodged c₂ c₃ rs') : Lodged c₁ c₃ (rs ++ rs') where
  atOnce hh := by
    obtain ⟨hj₁, ho₁, hd₁⟩ := h₁.atOnce hh
    obtain ⟨hj₂, ho₂, hd₂⟩ := h₂.atOnce (by rw [ho₁]; exact hh)
    exact ⟨by rw [hj₂, hj₁, List.append_assoc], ho₂.trans ho₁, hd₂.trans hd₁⟩
  held hh := by
    obtain ⟨hj₁, ho₁, hw₁, hd₁⟩ := h₁.held hh
    obtain ⟨hj₂, ho₂, hw₂, hd₂⟩ := h₂.held (by rw [ho₁]; exact hh)
    have hroom : c₂.outbox.room = c₁.outbox.room - rs.length := by
      have hlen := congrArg List.length hw₁
      have hcap : c₂.outbox.capacity = c₁.outbox.capacity := by rw [ho₁]
      simp only [List.length_map, List.length_append, List.length_take] at hlen
      unfold Audit.Outbox.room at hlen ⊢
      omega
    refine ⟨hj₂.trans hj₁, by rw [ho₂, ho₁], ?_, ?_⟩
    · rw [hw₂, hw₁, hroom, List.take_append, List.append_assoc]
    · rw [hd₂, hd₁, hroom, List.length_append]
      omega

end Lodged

namespace Act

/-- On a campus with an open audit queue, publishing an event lodges its record. -/
theorem emit_lodges (ctx : Context) (e : Audit.Event) (hc : c.OpenAudit) :
    ∃ c', (emit ctx e).exec c = (.ok (), c') ∧ Lodged c c' [e.record] := by
  unfold emit
  rw [exec_bind, exec_get]
  simp only [hc.audited, Bool.not_true, Bool.false_eq_true, ↓reduceIte]
  rw [exec_bind]
  simp only [nextUuid, exec_modifyGet]
  rw [exec_bind, exec_get]
  dsimp only
  cases hh : c.outbox.holding
  · -- a queue that is not held hands the event to the store
    rw [Audit.Outbox.accept_at_once _ hc.unclosed hh]
    dsimp only
    rw [exec_bind, exec_modify]
    dsimp only
    obtain ⟨c', hw, hj, hq⟩ := write_lodges (c := { c with issued := c.issued + 1 }) _ hc.store
    refine ⟨c', hw, fun _ => ⟨?_, hq.1, hq.2⟩, fun h => by simp [hh] at h⟩
    rw [hj, Audit.Journal.records_append]
    rfl
  · rw [Audit.Outbox.accept_held _ hc.unclosed hh]
    by_cases hr : 0 < c.outbox.room
    · -- the event waits behind the ones already waiting
      rw [if_pos hr]
      refine ⟨_, rfl, fun h => by simp [hh] at h, fun _ => ⟨rfl, rfl, ?_, ?_⟩⟩
      · obtain ⟨n, hn⟩ : ∃ n, c.outbox.room = n + 1 := ⟨_, (Nat.succ_pred_eq_of_pos hr).symm⟩
        simp [hn, Audit.Event.record]
      · simp only [List.length_singleton]
        omega
    · -- the queue is full, so the event is dropped and counted
      rw [if_neg hr]
      have h0 : c.outbox.room = 0 := by omega
      exact ⟨_, rfl, fun h => by simp [hh] at h, fun _ => ⟨rfl, rfl, by simp [h0], by simp [h0]⟩⟩

end Act

namespace Posting

/-- The metrics a posting updates: its gauge, then the units moved. -/
def meters (p : Posting) (r : Metrics.Registry) : Metrics.Registry :=
  let r := (p.gauge.map fun g => r.set g.1 [] (Float.ofNat g.2)).getD r
  (p.moved.map fun m => r.add "ccms_staking_moved_units_total" [m.1] (Float.ofNat m.2)).getD r

/-- The metrics step of a posting: none when it sets no gauge. -/
def metering (p : Posting) : Act Unit := if p.gauge.isSome then meter p.meters else pure ()

/-- The step after the lock: the metrics, then the event. -/
def publish (p : Posting) : Act Unit := p.metering >>= fun _ => emit p.ctx p.event

/-- The value the posting passes to the gauge `g`, if it sets it. -/
def value (g : String) (p : Posting) : Option Nat :=
  p.gauge.bind fun s => if s.1 = g then some s.2 else none

/-- On a campus with an open audit queue, a posting's step lodges its event's record and keeps
the queue open. -/
theorem publish_lodges (p : Posting) (hc : c.OpenAudit) :
    ∃ c', p.publish.exec c = (.ok (), c') ∧ Lodged c c' [p.event.record] ∧ c'.OpenAudit := by
  have hwired : Within Frame.wired p.publish := by
    unfold publish metering
    refine within_bind ?_ fun _ => within_published Frame.wired_untouched p.ctx p.event
    split
    · exact within_meter Frame.wired_untouched.toPasses _
    · exact within_pure ()
  -- the metrics move first, if at all, and leave the audit side as it was
  have hm : ∃ c₁, p.metering.exec c = (.ok (), c₁) ∧ Frame.audit.rel c c₁ := by
    unfold metering
    split
    · exact ⟨_, rfl, within_meter Frame.audit_steps.toPasses _ c⟩
    · exact ⟨c, rfl, Frame.audit.refl c⟩
  obtain ⟨c₁, hm, ha⟩ := hm
  obtain ⟨c', he, hl⟩ := emit_lodges p.ctx p.event (hc.wired ha.2.2)
  have hrun : p.publish.exec c = (.ok (), c') := by
    unfold publish
    rw [exec_bind, hm]
    exact he
  refine ⟨c', hrun, (Lodged.of_audit ha).trans hl, hc.wired ?_⟩
  have := hwired c
  rwa [hrun] at this

theorem books_publish (p : Posting) : Within .books p.publish := by
  unfold publish metering
  refine within_bind ?_ fun _ => books_emit p.ctx p.event
  split
  · exact within_quiet (quiet_meter _)
  · exact within_pure ()

end Posting

/-- The value passed to the gauge `g` by the last of the postings that set it. -/
def lastValue (g : String) (ps : List Posting) : Option Nat :=
  (ps.filterMap (Posting.value g)).getLast?

theorem lastValue_append_single (g : String) (ps : List Posting) (p : Posting) :
    lastValue g (ps ++ [p]) = (p.value g).or (lastValue g ps) := by
  unfold lastValue
  cases hp : p.value g <;> simp [List.filterMap_append, hp]

/-- Where a call stands in an interleaving: its transaction still to run, its posting still to
publish, or finished. -/
inductive Phase where
  | pending (commit : Act Posting)
  | committed (p : Posting)
  | finished

/-- An interleaving under way: the campus, where each call stands, and the calls with their
postings in the order their transactions committed and in the order they published. -/
structure Interleaving where
  campus : Campus
  phase : Nat → Phase
  commits : List (Nat × Posting) := []
  publishes : List (Nat × Posting) := []

namespace Interleaving

/-- Call `i` moves: a pending call runs its transaction, which hands over its posting or, when it
fails, finishes the call; a committed call publishes; a finished call does nothing. -/
def step (s : Interleaving) (i : Nat) : Interleaving :=
  match s.phase i with
  | .pending commit =>
    match commit.exec s.campus with
    | (.ok p, c) =>
      { s with campus := c, phase := Function.update s.phase i (.committed p),
               commits := s.commits ++ [(i, p)] }
    | (.error _, c) => { s with campus := c, phase := Function.update s.phase i .finished }
  | .committed p =>
    { s with campus := (p.publish.exec s.campus).2, phase := Function.update s.phase i .finished,
             publishes := s.publishes ++ [(i, p)] }
  | .finished => s

/-- The interleaving after the calls named by a schedule move, in order. -/
def run (s : Interleaving) (schedule : List Nat) : Interleaving := schedule.foldl step s

/-- The calls on a campus, all pending, numbered from zero. -/
def start (c : Campus) (calls : List (Act Posting)) : Interleaving where
  campus := c
  phase i := (calls[i]?.map Phase.pending).getD .finished

variable {s : Interleaving} {i : Nat} {k : Act Posting} {p : Posting}

theorem step_pending_ok (hk : s.phase i = .pending k) (hc : k.exec s.campus = (.ok p, c)) :
    s.step i = { s with campus := c, phase := Function.update s.phase i (.committed p),
                        commits := s.commits ++ [(i, p)] } := by
  unfold step
  rw [hk]
  dsimp only
  rw [hc]

theorem step_pending_error {e : Failure} (hk : s.phase i = .pending k)
    (hc : k.exec s.campus = (.error e, c)) :
    s.step i = { s with campus := c, phase := Function.update s.phase i .finished } := by
  unfold step
  rw [hk]
  dsimp only
  rw [hc]

theorem step_committed (hp : s.phase i = .committed p) :
    s.step i = { s with campus := (p.publish.exec s.campus).2,
                        phase := Function.update s.phase i .finished,
                        publishes := s.publishes ++ [(i, p)] } := by
  unfold step
  rw [hp]

theorem step_finished (hf : s.phase i = .finished) : s.step i = s := by
  unfold step
  rw [hf]

@[simp] theorem run_nil (s : Interleaving) : s.run [] = s := rfl

@[simp] theorem run_cons (s : Interleaving) (i : Nat) (schedule : List Nat) :
    s.run (i :: schedule) = (s.step i).run schedule := rfl

/-- A property that every move keeps holds after every schedule. -/
theorem run_induction (P : Interleaving → Prop) (hstep : ∀ s i, P s → P (s.step i))
    {s : Interleaving} (hs : P s) (schedule : List Nat) : P (s.run schedule) := by
  induction schedule generalizing s with
  | nil => exact hs
  | cons i schedule ih => exact ih (hstep s i hs)

/-- Only the moving call changes its phase, and never back to pending. -/
theorem pending_update {f : Nat → Phase} {i j : Nat} {x : Phase} {k : Act Posting}
    (hx : ∀ k, x ≠ .pending k) (h : Function.update f i x j = .pending k) : f j = .pending k := by
  by_cases hj : j = i
  · subst hj
    rw [Function.update_self] at h
    exact absurd h (hx k)
  · rwa [Function.update_of_ne hj] at h

/-- A call pending after a move was pending before it. -/
theorem pending_step {j : Nat} {k' : Act Posting} (h : (s.step i).phase j = .pending k') :
    s.phase j = .pending k' := by
  cases hph : s.phase i with
  | pending k =>
    rcases hc : k.exec s.campus with ⟨e | p, c⟩
    · rw [step_pending_error hph hc] at h
      exact pending_update (by simp) h
    · rw [step_pending_ok hph hc] at h
      exact pending_update (by simp) h
  | committed p =>
    rw [step_committed hph] at h
    exact pending_update (by simp) h
  | finished => rwa [step_finished hph] at h

/-- The records of the published postings' events, in the order they published. -/
def published (s : Interleaving) : List Audit.Record := s.publishes.map fun q => q.2.event.record

/-- The records of the committed postings' events, in the order they committed. -/
def committed (s : Interleaving) : List Audit.Record := s.commits.map fun q => q.2.event.record

/-- An interleaving started on `c` with an open audit queue: its campus's queue stays open, its
pending transactions keep the audit side, and the records of the published postings have been
lodged from `c` in the order they published. -/
structure Lodges (c : Campus) (s : Interleaving) : Prop where
  audit : s.campus.OpenAudit
  pending : ∀ i k, s.phase i = .pending k → Within Frame.audit k
  lodged : Lodged c s.campus s.published

theorem Lodges.step (h : Lodges c s) (i : Nat) : Lodges c (s.step i) := by
  have hpending : ∀ j k, (s.step i).phase j = .pending k → Within Frame.audit k :=
    fun j k hj => h.pending j k (pending_step hj)
  cases hph : s.phase i with
  | pending k =>
    -- a transaction keeps the audit side whatever its outcome
    have hkeep := h.pending i k hph s.campus
    have hlodged := h.lodged.trans (Lodged.of_audit hkeep)
    rw [List.append_nil] at hlodged
    rcases hc : k.exec s.campus with ⟨e | p, c⟩ <;> rw [hc] at hkeep hlodged
    · rw [step_pending_error hph hc] at hpending ⊢
      exact ⟨h.audit.wired hkeep.2.2, hpending, hlodged⟩
    · rw [step_pending_ok hph hc] at hpending ⊢
      exact ⟨h.audit.wired hkeep.2.2, hpending, hlodged⟩
  | committed p =>
    obtain ⟨c', hrun, hl, hc'⟩ := p.publish_lodges h.audit
    rw [step_committed hph] at hpending ⊢
    refine ⟨by rw [hrun]; exact hc', hpending, ?_⟩
    simp only [hrun, published, List.map_append, List.map_cons, List.map_nil]
    exact h.lodged.trans hl
  | finished => rwa [step_finished hph]

theorem Lodges.run (h : Lodges c s) (schedule : List Nat) : Lodges c (s.run schedule) :=
  run_induction (Lodges c) (fun _ i h => h.step i) h schedule

/-- A transaction that tallies the figure `v` under the gauge `g`: when it hands over a posting,
`v` is then the value the posting passes to `g`, or as it was when the posting sets no `g`; when
it fails, `v` is as it was. -/
def Tallies (v : Campus → Nat) (g : String) (k : Act Posting) : Prop :=
  ∀ c : Campus, (∀ p c', k.exec c = (.ok p, c') → v c' = (p.value g).getD (v c)) ∧
    ∀ e c', k.exec c = (.error e, c') → v c' = v c

/-- An interleaving whose pending transactions tally `v` under `g`, and whose campus holds as
`v` the value posted to `g` by the last commit to set it, or `base` when none did. -/
structure Tallied (v : Campus → Nat) (g : String) (base : Nat) (s : Interleaving) : Prop where
  pending : ∀ i k, s.phase i = .pending k → Tallies v g k
  figure : v s.campus = (lastValue g (s.commits.map Prod.snd)).getD base

theorem Tallied.step {v : Campus → Nat} {g : String} {base : Nat} {s : Interleaving}
    (hpub : ∀ (p : Posting) c, v (p.publish.exec c).2 = v c) (h : Tallied v g base s)
    (i : Nat) : Tallied v g base (s.step i) := by
  have hpending : ∀ j k, (s.step i).phase j = .pending k → Tallies v g k :=
    fun j k hj => h.pending j k (pending_step hj)
  cases hph : s.phase i with
  | pending k =>
    have htally := h.pending i k hph s.campus
    rcases hc : k.exec s.campus with ⟨e | p, c⟩
    · rw [step_pending_error hph hc] at hpending ⊢
      exact ⟨hpending, (htally.2 e c hc).trans h.figure⟩
    · rw [step_pending_ok hph hc] at hpending ⊢
      refine ⟨hpending, ?_⟩
      -- the committed posting comes last, so it decides the figure when it sets `g`
      simp only [htally.1 p c hc, List.map_append, List.map_cons, List.map_nil,
        lastValue_append_single, h.figure]
      cases p.value g <;> rfl
  | committed p =>
    rw [step_committed hph] at hpending ⊢
    exact ⟨hpending, (hpub p s.campus).trans h.figure⟩
  | finished => rwa [step_finished hph]

theorem Tallied.run {v : Campus → Nat} {g : String} {base : Nat} {s : Interleaving}
    (hpub : ∀ (p : Posting) c, v (p.publish.exec c).2 = v c) (h : Tallied v g base s)
    (schedule : List Nat) : Tallied v g base (s.run schedule) :=
  run_induction (Tallied v g base) (fun _ i h => h.step hpub i) h schedule

/-- The serial schedule of an order of calls: each moves twice in a row, committing and then
publishing, before the next moves. -/
def serial (order : List Nat) : List Nat := order.flatMap fun i => [i, i]

/-- A pending call that moves twice in a row publishes right after its commit, if it commits. -/
theorem step_step_pending (hk : s.phase i = .pending k) :
    ∃ new : List (Nat × Posting), ((s.step i).step i).commits = s.commits ++ new ∧
      ((s.step i).step i).publishes = s.publishes ++ new ∧
      ∀ j, j ≠ i → ((s.step i).step i).phase j = s.phase j := by
  rcases hc : k.exec s.campus with ⟨e | p, c⟩
  · rw [step_pending_error hk hc, step_finished (Function.update_self _ _ _)]
    exact ⟨[], by simp, by simp, fun j hj => Function.update_of_ne hj _ _⟩
  · rw [step_pending_ok hk hc, step_committed (Function.update_self _ _ _)]
    refine ⟨[(i, p)], rfl, rfl, fun j hj => ?_⟩
    simp only [Function.update_of_ne hj]

/-- Calls moved serially, each pending when its turn comes, publish exactly what they commit, in
the same order. -/
theorem serial_publishes : ∀ {order : List Nat} {s : Interleaving}, order.Nodup →
    (∀ i ∈ order, ∃ k, s.phase i = .pending k) → s.publishes = s.commits →
    (s.run (serial order)).publishes = (s.run (serial order)).commits
  | [], _, _, _, h => h
  | i :: order, s, hnodup, hpend, h => by
    obtain ⟨k, hk⟩ := hpend i List.mem_cons_self
    obtain ⟨new, hc, hp, hother⟩ := step_step_pending hk
    have hrest : ∀ j ∈ order, ∃ k, ((s.step i).step i).phase j = .pending k := by
      intro j hj
      have hne : j ≠ i := fun he => (List.nodup_cons.mp hnodup).1 (he ▸ hj)
      rw [hother j hne]
      exact hpend j (List.mem_cons_of_mem i hj)
    have := serial_publishes (List.nodup_cons.mp hnodup).2 hrest (by rw [hc, hp, h])
    simpa [serial] using this

end Interleaving

end CampusLedger
