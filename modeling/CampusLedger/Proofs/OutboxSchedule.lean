import Mathlib
import CampusLedger.Proofs.AsyncPublisher
/-!
# The outbox runs the publisher on one schedule

The campus does not interleave its audit queue with anything: its outbox lets the worker keep
up with every emit unless the store is held, and writes the waiting events when the hold ends or
the queue is closed. That is one schedule of the publisher's moves. `Outbox.Mirrors` says which
state of the publisher an outbox stands for: its waiting events are the worker's event in hand
and the queue behind it, the worker takes an event as soon as one is queued, and it runs until
the queue is closed.

Each operation of the outbox is mirrored by the publisher's moves on that schedule
(`Mirrors.accept`, `Mirrors.release`, `Mirrors.close`), what the outbox does with an event is
what the publisher's offer says (`Mirrors.accept_dispatch`), and the events the outbox hands
over for writing are the ones the worker writes, in order. Over a whole run of the campus's uses
of its queue (`Use`) the outbox mirrors the publisher run on the matching moves
(`Mirrors.runAll`), so the guarantees proved for every interleaving of the publisher hold of the
campus's audit queue: every event it accepts is handed over to be written, or still waits, once
and in the order it was published (`outbox_keeps_accepted_events_in_order`).
-/

namespace CampusLedger.Audit

/-- What the outbox does with an offered event, with the store held or not. -/
def Offer.dispatch (held : Bool) : Offer → Dispatch
  | .queued => if held then .wait else .deliver
  | .dropped => .drop
  | .panicked => .closed

namespace Outbox

open Publisher

variable {o : Outbox} {p : Publisher} {e : Event}

/-- The publisher's moves behind one event given to the outbox: the emit and the worker's
receive, and, when the store is neither held nor closed, the worker's write with the store's
answer. -/
def schedule (o : Outbox) (e : Event) (answer : Bool) : List Move :=
  if o.held || o.closed then [.emit e, .receive] else [.emit e, .receive, .write answer]

/-- The outbox `o` stands for the publisher state `p` when the worker runs as `schedule` lays
out: it takes each event as soon as it is queued and writes it at once unless the store is held. -/
structure Mirrors (o : Outbox) (p : Publisher) : Prop where
  queued : 0 < o.capacity
  capacity : p.capacity = o.capacity
  closed : p.closed = o.closed
  /-- The waiting events are the worker's event in hand, then the queue. -/
  waiting : o.waiting = p.taken.toList ++ p.queue
  /-- The worker takes an event as soon as one is queued. -/
  eager : p.taken = none → p.queue = []
  /-- With the store not held, the worker keeps up and nothing waits. -/
  idle : o.held = false → o.waiting = []
  /-- Nothing waits once the queue is closed. -/
  settled : o.closed = true → o.waiting = []
  running : p.running = !o.closed

theorem mirrors_start {n : Nat} (hn : 0 < n) (k : Nat) :
    Mirrors { capacity := n } (Publisher.start n k) where
  queued := hn
  capacity := rfl
  closed := rfl
  waiting := rfl
  eager _ := rfl
  idle _ := rfl
  settled _ := rfl
  running := rfl

/-- A publisher state that agrees with a mirrored one on the worker and the queue is mirrored
too. -/
theorem Mirrors.of_agrees {p' : Publisher} (h : Mirrors o p) (hcap : p'.capacity = p.capacity)
    (hc : p'.closed = p.closed) (ht : p'.taken = p.taken) (hq : p'.queue = p.queue)
    (hr : p'.running = p.running) : Mirrors o p' where
  queued := h.queued
  capacity := hcap.trans h.capacity
  closed := hc.trans h.closed
  waiting := by rw [ht, hq]; exact h.waiting
  eager := by rw [ht, hq]; exact h.eager
  idle := h.idle
  settled := h.settled
  running := hr.trans h.running

/-- Holding the store changes nothing the worker sees. -/
theorem Mirrors.hold (h : Mirrors o p) : Mirrors { o with held := true } p where
  queued := h.queued
  capacity := h.capacity
  closed := h.closed
  waiting := h.waiting
  eager := h.eager
  idle hh := by cases hh
  settled := h.settled
  running := h.running

/-- With the store not held, nothing waits: the worker's hand and the queue are empty. -/
theorem Mirrors.empty_of_idle (h : Mirrors o p) (hh : o.held = false) :
    p.taken = none ∧ p.queue = [] := by
  have hw := h.idle hh
  rw [h.waiting, List.append_eq_nil_iff, Option.toList_eq_nil_iff] at hw
  exact hw

/-- An outbox of waiting events has room for one more exactly when the publisher's queue does. -/
theorem Mirrors.room_iff (h : Mirrors o p) :
    o.waiting.length < o.capacity + 1 ↔ p.queue.length < p.capacity := by
  rw [h.waiting, h.capacity]
  cases ht : p.taken with
  | none =>
    -- an empty hand means an empty queue, and the queue has room since the capacity is positive
    rw [h.eager ht]
    simp [h.queued]
  | some t => simp

/-- What the outbox does with an event is what the publisher's offer says. -/
theorem Mirrors.accept_dispatch (h : Mirrors o p) (e : Event) :
    (o.accept e).1 = p.offer.dispatch o.held := by
  have hq : o.queued = true := by simp [Outbox.queued, h.queued]
  cases hc : o.closed
  · cases hh : o.held
    · -- the worker keeps up: the queue is empty and the event is delivered at once
      have hroom : p.queue.length < p.capacity := by
        rw [(h.empty_of_idle hh).2, h.capacity]
        exact h.queued
      simp [Outbox.accept, Publisher.offer, hq, hc, hh, h.closed, hroom, Offer.dispatch]
    · by_cases hroom : p.queue.length < p.capacity
      · simp [Outbox.accept, Publisher.offer, hq, hc, hh, h.closed, hroom, h.room_iff.mpr hroom,
          Offer.dispatch]
      · simp [Outbox.accept, Publisher.offer, hq, hc, hh, h.closed, hroom,
          mt h.room_iff.mp hroom, Offer.dispatch]
  · simp [Outbox.accept, Publisher.offer, hq, hc, h.closed, Offer.dispatch]

/-- On a closed queue the emit is refused and the worker, which has ended, does nothing. -/
theorem Mirrors.accept_closed (h : Mirrors o p) (hc : o.closed = true) (e : Event)
    (answer : Bool) : Mirrors (o.accept e).2 (p.run (o.schedule e answer)) := by
  have hacc : (o.accept e).2 = o := by simp [Outbox.accept, Outbox.queued, h.queued, hc]
  have hrun : p.running = false := by simp [h.running, hc]
  have hpan : p.offer ≠ .queued := by simp [Publisher.offer, h.closed, hc]
  rw [hacc]
  refine h.of_agrees ?_ ?_ ?_ ?_ ?_ <;>
    simp [schedule, hc, Publisher.step, hpan, hrun]

/-- With the store not held, the worker takes the event at once and writes it: nothing is left
waiting, and the write is the event with the store's answer. -/
theorem Mirrors.accept_idle (h : Mirrors o p) (hc : o.closed = false) (hh : o.held = false)
    (e : Event) (answer : Bool) :
    Mirrors (o.accept e).2 (p.run (o.schedule e answer)) ∧
      (p.run (o.schedule e answer)).writes = p.writes ++ [(e, answer)] := by
  have hq : o.queued = true := by simp [Outbox.queued, h.queued]
  have hacc : (o.accept e).2 = o := by simp [Outbox.accept, hq, hc, hh]
  obtain ⟨ht, hqe⟩ := h.empty_of_idle hh
  have hrun : p.running = true := by simp [h.running, hc]
  have hqd : p.offer = .queued := by
    simp [Publisher.offer, h.closed, hc, hqe, h.capacity, h.queued]
  rw [hacc]
  refine ⟨h.of_agrees ?_ ?_ ?_ ?_ ?_, ?_⟩ <;>
    simp [schedule, hc, hh, Publisher.step, hqd, hrun, ht, hqe]

/-- With the store held, the event joins the waiting ones when there is room, an idle worker
taking it in hand at once; otherwise it is dropped and nothing changes. -/
theorem Mirrors.accept_held (h : Mirrors o p) (hc : o.closed = false) (hh : o.held = true)
    (e : Event) (answer : Bool) : Mirrors (o.accept e).2 (p.run (o.schedule e answer)) := by
  have hq : o.queued = true := by simp [Outbox.queued, h.queued]
  have hcl : p.closed = false := h.closed.trans hc
  by_cases hroom : p.queue.length < p.capacity
  · have hacc : (o.accept e).2 = { o with waiting := o.waiting ++ [e] } := by
      simp [Outbox.accept, hq, hc, hh, h.room_iff.mpr hroom]
    have hqd : p.offer = .queued := by simp [Publisher.offer, hcl, hroom]
    rw [hacc]
    cases ht : p.taken with
    | none =>
      -- the worker was idle: it takes the new event in hand
      have hqe := h.eager ht
      have hrun : p.running = true := by simp [h.running, hc]
      have hw : o.waiting = [] := by rw [h.waiting, ht, hqe]; rfl
      refine ⟨h.queued, ?_, ?_, ?_, ?_, ?_, ?_, ?_⟩ <;>
        simp [schedule, hc, hh, Publisher.step, hqd, hrun, ht, hqe, hw, h.capacity, h.closed]
    | some t =>
      -- the worker holds an earlier event: the new one waits in the queue behind it
      refine ⟨h.queued, ?_, ?_, ?_, ?_, ?_, ?_, ?_⟩ <;>
        simp [schedule, hc, hh, Publisher.step, hqd, ht, h.waiting, h.capacity, h.closed,
          h.running]
  · have hacc : (o.accept e).2 = o := by
      simp [Outbox.accept, hq, hc, hh, mt h.room_iff.mp hroom]
    have hdrop : p.offer ≠ .queued := by simp [Publisher.offer, hcl, hroom]
    have htaken : p.taken ≠ none := fun ht => hroom (by
      rw [h.eager ht, h.capacity]
      exact h.queued)
    rw [hacc]
    refine h.of_agrees ?_ ?_ ?_ ?_ ?_ <;>
      simp [schedule, hc, hh, Publisher.step, hdrop, Option.isNone_iff_eq_none, htaken]

/-- Every event given to the outbox is mirrored by the publisher's moves on the schedule. -/
theorem Mirrors.accept (h : Mirrors o p) (e : Event) (answer : Bool) :
    Mirrors (o.accept e).2 (p.run (o.schedule e answer)) := by
  cases hc : o.closed
  · cases hh : o.held
    · exact (h.accept_idle hc hh e answer).1
    · exact h.accept_held hc hh e answer
  · exact h.accept_closed hc e answer

/-- A mirrored worker has ended only on a closed queue, so it left nothing behind. -/
theorem Mirrors.ended (h : Mirrors o p) (hr : p.running = false) :
    p.taken = none ∧ p.queue = [] := by
  have hc : o.closed = true := by simpa [h.running] using hr
  have hw := h.settled hc
  rw [h.waiting, List.append_eq_nil_iff, Option.toList_eq_nil_iff] at hw
  exact hw

/-- Ending the hold writes the waiting events: the worker writes the one in its hand, then takes
and writes each queued one, so the writes are the waiting events in order. -/
theorem Mirrors.release (h : Mirrors o p) (answer : Event → Bool) :
    Mirrors o.release.2 (p.run (p.flush answer)) ∧
      (p.run (p.flush answer)).writes = p.writes ++ o.release.1.map fun e => (e, answer e) := by
  obtain ⟨hr, ht, hq, hc, hw⟩ := run_flush h.ended answer
  refine ⟨⟨h.queued, ?_, ?_, ?_, ?_, ?_, ?_, ?_⟩, ?_⟩
  · rw [capacity_run]
    exact h.capacity
  · exact hc.trans h.closed
  · simp [Outbox.release, ht, hq]
  · simp [hq]
  · simp [Outbox.release]
  · simp [Outbox.release]
  · exact hr.trans h.running
  · rw [hw, ← h.waiting]
    rfl

/-- Closing writes the waiting events as a release does, then closes the queue; the worker
finds it closed and empty and ends, so the closed outbox mirrors an ended worker. -/
theorem Mirrors.close (h : Mirrors o p) (answer : Event → Bool) :
    let q := p.run (p.flush answer ++ [.close, .receive])
    Mirrors o.close.2 q ∧ q.writes = p.writes ++ o.close.1.map (fun e => (e, answer e)) ∧
      q.running = false := by
  obtain ⟨-, ht, hq, hc, hw⟩ := run_flush h.ended answer
  -- the worker's last receive: it ends if it was still running, and stays ended otherwise
  have hend : (((p.run (p.flush answer)).step .close).step .receive).running = false := by
    cases hr : (p.run (p.flush answer)).running <;> simp [Publisher.step, hr, ht, hq]
  rw [run_append, run_cons, run_cons, run_nil]
  refine ⟨⟨h.queued, ?_, ?_, ?_, ?_, ?_, ?_, ?_⟩, ?_, hend⟩
  · rw [capacity_step, capacity_step, capacity_run]
    exact h.capacity
  · simp [closed_step, Outbox.close, Outbox.release, Outbox.queued, h.queued]
  · cases hr : (p.run (p.flush answer)).running <;>
      simp [Outbox.close, Outbox.release, Publisher.step, hr, ht, hq]
  · cases hr : (p.run (p.flush answer)).running <;> simp [Publisher.step, hr, ht, hq]
  · simp [Outbox.close, Outbox.release]
  · simp [Outbox.close, Outbox.release]
  · rw [hend]
    simp [Outbox.close, Outbox.release, Outbox.queued, h.queued]
  · cases hr : (p.run (p.flush answer)).running <;>
      simp [Outbox.close, Outbox.release, Publisher.step, hr, ht, hq, hw, h.waiting]

/-- What the campus does with its audit queue: publishes an event, which the store answers if it
is written now; holds the store; ends the hold; or closes the queue, the store answering each
event written then. -/
inductive Use where
  | emit (e : Event) (answer : Bool)
  | hold
  | release (answer : Event → Bool)
  | close (answer : Event → Bool)

namespace Use

/-- The events a use hands over to be written now, and the outbox after it. -/
def apply : Use → Outbox → List Event × Outbox
  | .emit e _, o => (if (o.accept e).1 = .deliver then [e] else [], (o.accept e).2)
  | .hold, o => ([], { o with held := true })
  | .release _, o => o.release
  | .close _, o => o.close

/-- The published event, when the queue accepts it: delivered at once or left waiting. -/
def keeps (o : Outbox) : Use → List Event
  | .emit e _ => if (o.accept e).1 = .deliver ∨ (o.accept e).1 = .wait then [e] else []
  | _ => []

/-- The publisher's moves behind a use of an outbox it mirrors. -/
def moves (p : Publisher) (o : Outbox) : Use → List Move
  | .emit e answer => o.schedule e answer
  | .hold => []
  | .release answer => p.flush answer
  | .close answer => p.flush answer ++ [.close, .receive]

/-- A run of uses: every event handed over to be written, in order, and the final outbox. -/
def runAll : List Use → Outbox → List Event × Outbox
  | [], o => ([], o)
  | u :: us, o => ((u.apply o).1 ++ (runAll us (u.apply o).2).1, (runAll us (u.apply o).2).2)

/-- The events a run of uses published and the queue accepted, in order. -/
def keptAll : List Use → Outbox → List Event
  | [], _ => []
  | u :: us, o => u.keeps o ++ keptAll us (u.apply o).2

/-- The publisher's moves behind a run of uses. -/
def movesAll (p : Publisher) : List Use → Outbox → List Move
  | [], _ => []
  | u :: us, o => u.moves p o ++ movesAll (p.run (u.moves p o)) us (u.apply o).2

end Use

/-- The queue accepts an event exactly when the publisher's offer queues it. -/
theorem Offer.dispatch_kept (x : Offer) (held : Bool) :
    (x.dispatch held = .deliver ∨ x.dispatch held = .wait) ↔ x = .queued := by
  cases x <;> cases held <;> simp [Offer.dispatch]

/-- Only an emit records an offer. -/
theorem offers_step_of_ne_emit {m : Move} (h : ∀ e, m ≠ .emit e) : (p.step m).offers = p.offers := by
  cases m with
  | emit e => exact absurd rfl (h e)
  | receive => rcases receive_cases p with h' | ⟨-, -, -, -, h'⟩ | ⟨_, _, -, -, -, h'⟩ <;> rw [h']
  | write a => cases ht : p.taken <;> simp [Publisher.step, ht]
  | close => rfl

/-- Only the worker's writes record a write. -/
theorem writes_step_of_ne_write {m : Move} (h : ∀ a, m ≠ .write a) : (p.step m).writes = p.writes := by
  cases m with
  | emit e => rfl
  | receive => rcases receive_cases p with h' | ⟨-, -, -, -, h'⟩ | ⟨_, _, -, -, -, h'⟩ <;> rw [h']
  | write a => exact absurd rfl (h a)
  | close => rfl

theorem writes_run_of_ne_write (moves : List Move) (h : ∀ m ∈ moves, ∀ a, m ≠ .write a) :
    (p.run moves).writes = p.writes := by
  induction moves generalizing p with
  | nil => rfl
  | cons m moves ih =>
    rw [run_cons, ih fun m' hm => h m' (List.mem_cons_of_mem _ hm),
      writes_step_of_ne_write (h m List.mem_cons_self)]

theorem offers_run_of_ne_emit (moves : List Move) (h : ∀ m ∈ moves, ∀ e, m ≠ .emit e) :
    (p.run moves).offers = p.offers := by
  induction moves generalizing p with
  | nil => rfl
  | cons m moves ih =>
    rw [run_cons, ih fun m' hm => h m' (List.mem_cons_of_mem _ hm),
      offers_step_of_ne_emit (h m List.mem_cons_self)]

/-- The worker's own moves never emit. -/
theorem flush_ne_emit (answer : Event → Bool) : ∀ m ∈ p.flush answer, ∀ e, m ≠ .emit e := by
  intro m hm e
  simp only [flush, List.mem_append, List.mem_flatMap] at hm
  rcases hm with hm | ⟨x, -, hm⟩
  · cases ht : p.taken <;> simp_all
  · simp only [List.mem_cons, List.not_mem_nil, or_false] at hm
    rcases hm with rfl | rfl <;> simp

/-- A use queues in the publisher exactly the event the outbox accepts. -/
theorem Mirrors.queued_use (h : Mirrors o p) (u : Use) :
    (p.run (u.moves p o)).queuedEvents = p.queuedEvents ++ u.keeps o := by
  cases u with
  | emit e answer =>
    -- the emit records its offer, and the worker's receive and write that follow record none
    obtain ⟨rest, hs, hrest⟩ : ∃ rest, o.schedule e answer = .emit e :: rest ∧
        ∀ m ∈ rest, ∀ e', m ≠ .emit e' := by
      unfold schedule
      split
      · exact ⟨_, rfl, by simp⟩
      · exact ⟨_, rfl, by simp⟩
    have hk := Offer.dispatch_kept p.offer o.held
    rw [← h.accept_dispatch e] at hk
    simp only [Use.moves, Use.keeps, hs, run_cons, queuedEvents, offers_run_of_ne_emit rest hrest,
      offers_step_emit, List.filter_append]
    by_cases hq : p.offer = .queued
    · simp [hq, hk.mpr hq]
    · simp [hq, mt hk.mp hq]
  | hold => simp [Use.moves, Use.keeps]
  | release answer =>
    simp [Use.moves, Use.keeps, queuedEvents, offers_run_of_ne_emit _ (flush_ne_emit answer)]
  | close answer =>
    have hne : ∀ m ∈ p.flush answer ++ [.close, .receive], ∀ e, m ≠ .emit e := by
      intro m hm e
      rcases List.mem_append.mp hm with hm | hm
      · exact flush_ne_emit answer m hm e
      · simp only [List.mem_cons, List.not_mem_nil, or_false] at hm
        rcases hm with rfl | rfl <;> simp
    simp [Use.moves, Use.keeps, queuedEvents, offers_run_of_ne_emit _ hne]

/-- The worker writes an emitted event within the emit's moves exactly when the outbox hands it
over: at once when the queue keeps up, never when the store is held or the queue is closed. -/
theorem Mirrors.writes_emit (h : Mirrors o p) (e : Event) (answer : Bool) :
    (p.run (o.schedule e answer)).writes.map Prod.fst =
      p.writes.map Prod.fst ++ ((Use.emit e answer).apply o).1 := by
  have hq : o.queued = true := by simp [Outbox.queued, h.queued]
  cases hc : o.closed
  · cases hh : o.held
    · -- the worker keeps up and writes the event at once
      have hacc : (o.accept e).1 = .deliver := by simp [Outbox.accept, hq, hc, hh]
      simp [Use.apply, hacc, (h.accept_idle hc hh e answer).2]
    · -- a held store: the event waits or is dropped, and nothing is written
      have hacc : (o.accept e).1 ≠ .deliver := by
        unfold Outbox.accept
        simp only [hq, hc, hh, Bool.not_true, Bool.false_eq_true, ↓reduceIte]
        split <;> simp
      have hs : o.schedule e answer = [.emit e, .receive] := by simp [schedule, hh]
      rw [hs, writes_run_of_ne_write _ (by simp)]
      simp [Use.apply, hacc]
  · -- a closed queue refuses the event, and the ended worker writes nothing
    have hacc : (o.accept e).1 = .closed := by simp [Outbox.accept, hq, hc]
    have hs : o.schedule e answer = [.emit e, .receive] := by simp [schedule, hc]
    rw [hs, writes_run_of_ne_write _ (by simp)]
    simp [Use.apply, hacc]

/-- One use of a mirrored outbox: the outbox after it mirrors the publisher after its moves, the
worker writes the events the outbox hands over, and the publisher queues the event the outbox
accepts. -/
theorem Mirrors.use (h : Mirrors o p) (u : Use) :
    Mirrors (u.apply o).2 (p.run (u.moves p o)) ∧
      (p.run (u.moves p o)).writes.map Prod.fst = p.writes.map Prod.fst ++ (u.apply o).1 ∧
      (p.run (u.moves p o)).queuedEvents = p.queuedEvents ++ u.keeps o := by
  refine ⟨?_, ?_, h.queued_use u⟩
  · cases u with
    | emit e answer => exact h.accept e answer
    | hold => exact h.hold
    | release answer => exact (h.release answer).1
    | close answer => exact (h.close answer).1
  · cases u with
    | emit e answer => exact h.writes_emit e answer
    | hold => simp [Use.moves, Use.apply]
    | release answer => simp [Use.moves, Use.apply, (h.release answer).2, Function.comp_def]
    | close answer => simp [Use.moves, Use.apply, (h.close answer).2.1, Function.comp_def]

/-- Along a run of uses the outbox mirrors the publisher run on the matching moves: the worker
writes every event the outbox hands over, in order, and the publisher queues every event the
outbox accepts, in order. -/
theorem Mirrors.runAll (h : Mirrors o p) (us : List Use) :
    let q := p.run (Use.movesAll p us o)
    Mirrors (Use.runAll us o).2 q ∧
      q.writes.map Prod.fst = p.writes.map Prod.fst ++ (Use.runAll us o).1 ∧
      q.queuedEvents = p.queuedEvents ++ Use.keptAll us o := by
  induction us generalizing o p with
  | nil => exact ⟨h, by simp [Use.runAll, Use.movesAll], by simp [Use.keptAll, Use.movesAll]⟩
  | cons u us ih =>
    obtain ⟨hm, hw, hq⟩ := h.use u
    obtain ⟨hm', hw', hq'⟩ := ih hm
    simp only [Use.movesAll, Use.runAll, Use.keptAll, run_append]
    refine ⟨hm', ?_, ?_⟩
    · rw [hw', hw, List.append_assoc]
    · rw [hq', hq, List.append_assoc]

/-- Along every run of the campus's audit queue from an empty one with a capacity, every event
the queue accepted, delivered at once or left waiting, has been handed over to be written or
still waits, once and in the order it was published; at most one event more than the capacity
waits; and nothing waits once the queue is closed. -/
theorem outbox_keeps_accepted_events_in_order {n : Nat} (hn : 0 < n) (us : List Use) :
    let r := Use.runAll us { capacity := n }
    Use.keptAll us { capacity := n } = r.1 ++ r.2.waiting ∧ r.2.waiting.length ≤ n + 1 ∧
      (r.2.closed = true → r.2.waiting = []) := by
  dsimp only
  -- the publisher run on the mirroring schedule is sound, and the outbox mirrors it
  obtain ⟨hm, hw, hq⟩ := (mirrors_start hn 0).runAll us
  have hs := (sound_start n 0).run (Use.movesAll (Publisher.start n 0) us { capacity := n })
  have hcap := capacity_run (Publisher.start n 0)
    (Use.movesAll (Publisher.start n 0) us { capacity := n })
  generalize (Publisher.start n 0).run (Use.movesAll (Publisher.start n 0) us { capacity := n }) = q
    at hm hw hq hs hcap
  refine ⟨?_, ?_, hm.settled⟩
  · have hfifo := hs.fifo
    rw [hq, hw] at hfifo
    rw [hm.waiting]
    simpa [Publisher.start, queuedEvents] using hfifo
  · rw [hm.waiting, List.length_append]
    have hb := hs.bounded
    have ht : q.taken.toList.length ≤ 1 := Option.length_toList_le
    simp only [hcap, Publisher.start] at hb
    omega

end Outbox

end CampusLedger.Audit
