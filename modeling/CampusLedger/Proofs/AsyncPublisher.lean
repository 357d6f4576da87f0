import Mathlib
import CampusLedger.Audit.Publisher
import CampusLedger.Proofs.Act
/-!
# What the asynchronous publisher guarantees

Whatever the interleaving of `Emit` calls, the worker and `Close`, the publisher keeps five
facts (`Publisher.Sound`), each move keeping them (`Sound.step`):

* the events queued so far are, in the order they were queued, the ones the worker wrote, then
  the one in its hand, then those still in the queue: none is lost, repeated or reordered;
* the store holds exactly the written events it accepted, in order, and every sink received
  exactly what the store holds;
* the queue never holds more than its capacity;
* once the worker has ended, the queue is closed and empty and the worker's hand is empty.

So when `Close` returns, which is when the worker has ended, every queued event was written
once, in queue order (`queued_events_are_written_once_in_order`); the worker does end on its own
moves once the queue is closed (`Sound.finishes`). An `Emit` drops its event exactly when the
queue is open and full; and it panics exactly when a `Close` came before it in the run
(`emit_panics_iff_closed_before`).
-/

namespace CampusLedger.Audit.Publisher

variable {p : Publisher} {e : Event} {m : Move}

/-- The events queued so far, in the order they were queued. -/
def queuedEvents (p : Publisher) : List Event :=
  (p.offers.filter fun x => decide (x.2 = .queued)).map Prod.fst

/-- The written events that the store accepted, in order. -/
def accepted (p : Publisher) : List Event :=
  (p.writes.filter Prod.snd).map Prod.fst

@[simp] theorem run_nil (p : Publisher) : p.run [] = p := rfl

@[simp] theorem run_cons (p : Publisher) (m : Move) (moves : List Move) :
    p.run (m :: moves) = (p.step m).run moves := rfl

theorem run_append (p : Publisher) (moves moves' : List Move) :
    p.run (moves ++ moves') = (p.run moves).run moves' :=
  List.foldl_append

@[simp] theorem offers_step_emit : (p.step (.emit e)).offers = p.offers ++ [(e, p.offer)] := rfl

/-- What one receive of the worker does: nothing while it holds an event, has ended or waits on
an open empty queue; it ends on a closed empty queue; otherwise it takes the head of the queue. -/
theorem receive_cases (p : Publisher) :
    p.step .receive = p ∨
      (p.running = true ∧ p.taken = none ∧ p.queue = [] ∧ p.closed = true ∧
        p.step .receive = { p with running := false }) ∨
      ∃ e rest, p.running = true ∧ p.taken = none ∧ p.queue = e :: rest ∧
        p.step .receive = { p with queue := rest, taken := some e } := by
  by_cases hidle : (p.running && p.taken.isNone) = true
  · obtain ⟨hr, ht⟩ : p.running = true ∧ p.taken = none := by simpa using hidle
    cases hq : p.queue with
    | nil =>
      cases hc : p.closed
      · exact Or.inl (by simp [step, hr, ht, hq, hc])
      · exact Or.inr (Or.inl ⟨hr, ht, rfl, rfl, by simp [step, hr, ht, hq, hc]⟩)
    | cons e rest => exact Or.inr (Or.inr ⟨e, rest, hr, ht, rfl, by simp [step, hr, ht, hq]⟩)
  · exact Or.inl (by simp [step, hidle])

theorem capacity_step (m : Move) : (p.step m).capacity = p.capacity := by
  cases m with
  | emit e => rfl
  | receive =>
    rcases receive_cases p with h | ⟨-, -, -, -, h⟩ | ⟨e, rest, -, -, -, h⟩ <;> rw [h]
  | write ok => cases h : p.taken <;> simp [step, h]
  | close => rfl

/-- The queue is closed after a move exactly when it was before or the move is a `Close`. -/
theorem closed_step (m : Move) : (p.step m).closed = (p.closed || m == .close) := by
  cases m with
  | emit e => simp [step]
  | receive =>
    rcases receive_cases p with h | ⟨-, -, -, -, h⟩ | ⟨e, rest, -, -, -, h⟩ <;> simp [h]
  | write ok => cases h : p.taken <;> simp [step, h]
  | close => simp [step]

theorem closed_run (p : Publisher) (moves : List Move) :
    (p.run moves).closed = (p.closed || moves.contains .close) := by
  induction moves generalizing p with
  | nil => simp
  | cons m moves ih =>
    rw [run_cons, ih, closed_step, List.contains_cons, BEq.comm, Bool.or_assoc]

theorem offer_eq_panicked : p.offer = .panicked ↔ p.closed = true := by
  unfold offer
  split_ifs <;> simp_all

/-- An event offered to an open queue is dropped exactly when the queue is full. -/
theorem offer_eq_dropped (hb : p.queue.length ≤ p.capacity) :
    p.offer = .dropped ↔ p.closed = false ∧ p.queue.length = p.capacity := by
  unfold offer
  split_ifs with hc hlt
  · simp [hc]
  · simp only [false_iff, not_and]
    intro _
    omega
  · simp only [hc, true_and, true_iff]
    omega

/-- A later `Close` changes nothing. -/
theorem step_close_of_closed (hc : p.closed = true) : p.step .close = p := by
  cases p
  simp_all [step]

/-- The facts every reachable state of the publisher satisfies. -/
structure Sound (p : Publisher) : Prop where
  /-- The queued events are the written ones, the one in hand and those still queued. -/
  fifo : p.queuedEvents = p.writes.map Prod.fst ++ p.taken.toList ++ p.queue
  stored : p.stored = p.accepted
  sinks : ∀ log ∈ p.sinks, log = p.stored
  bounded : p.queue.length ≤ p.capacity
  ended : p.running = false → p.closed = true ∧ p.taken = none ∧ p.queue = []

theorem sound_start (n k : Nat) : (start n k).Sound where
  fifo := rfl
  stored := rfl
  sinks log h := (List.eq_of_mem_replicate h)
  bounded := Nat.zero_le n
  ended h := by simp [start] at h

theorem Sound.emit (h : p.Sound) (e : Event) : (p.step (.emit e)).Sound := by
  have hq : (p.step (.emit e)).queuedEvents =
      p.queuedEvents ++ if p.offer = .queued then [e] else [] := by
    simp only [queuedEvents, offers_step_emit, List.filter_append]
    split <;> simp_all
  refine ⟨?_, h.stored, h.sinks, ?_, fun hr => ?_⟩
  · show _ = p.writes.map Prod.fst ++ p.taken.toList ++
      (if p.offer = .queued then p.queue ++ [e] else p.queue)
    rw [hq, h.fifo]
    split <;> simp
  · show (if p.offer = .queued then p.queue ++ [e] else p.queue).length ≤ p.capacity
    split
    · -- an event is queued only when there is room for it
      rename_i hqd
      unfold offer at hqd
      split_ifs at hqd with hc hlt
      simp only [List.length_append, List.length_singleton]
      omega
    · exact h.bounded
  · -- an ended worker means a closed queue, where every offer panics
    obtain ⟨hc, ht, hqe⟩ := h.ended hr
    have hne : p.offer ≠ .queued := by
      rw [offer_eq_panicked.mpr hc]
      decide
    refine ⟨hc, ht, ?_⟩
    show (if p.offer = .queued then p.queue ++ [e] else p.queue) = []
    rw [if_neg hne, hqe]

theorem Sound.receive (h : p.Sound) : (p.step .receive).Sound := by
  rcases receive_cases p with hs | ⟨-, ht, hq, hc, hs⟩ | ⟨e, rest, hrun, ht, hq, hs⟩ <;> rw [hs]
  · exact h
  · -- the queue is closed and empty: the worker ends
    exact ⟨h.fifo, h.stored, h.sinks, h.bounded, fun _ => ⟨hc, ht, hq⟩⟩
  · -- the worker takes the head of the queue in hand
    refine ⟨?_, h.stored, h.sinks, ?_, fun hr => by simp [hrun] at hr⟩
    · show p.queuedEvents = _ ++ [e] ++ rest
      rw [h.fifo, ht, hq]
      simp
    · show rest.length ≤ p.capacity
      have := h.bounded
      rw [hq, List.length_cons] at this
      omega

theorem Sound.write (h : p.Sound) (ok : Bool) : (p.step (.write ok)).Sound := by
  cases ht : p.taken with
  | none => simpa [step, ht] using h
  | some e =>
    -- the event in hand is written, and stored and delivered when the store accepts it
    have hrun : p.running = true := by
      cases hr : p.running
      · simp [(h.ended hr).2.1] at ht
      · rfl
    refine ⟨?_, ?_, ?_, ?_, ?_⟩
    · simp only [step, ht, Option.elim]
      show p.queuedEvents = _
      rw [h.fifo, ht]
      simp
    · simp only [step, ht, Option.elim, accepted, List.filter_append, h.stored]
      cases ok <;> simp
    · simp only [step, ht, Option.elim]
      cases ok
      · simpa using h.sinks
      · intro log hlog
        obtain ⟨l, hl, rfl⟩ := List.mem_map.mp hlog
        simp [h.sinks l hl]
    · simpa [step, ht] using h.bounded
    · simp [step, ht, hrun]

theorem Sound.close (h : p.Sound) : (p.step .close).Sound :=
  ⟨h.fifo, h.stored, h.sinks, h.bounded, fun hr => ⟨rfl, (h.ended hr).2⟩⟩

theorem Sound.step (h : p.Sound) (m : Move) : (p.step m).Sound := by
  cases m with
  | emit e => exact h.emit e
  | receive => exact h.receive
  | write ok => exact h.write ok
  | close => exact h.close

theorem Sound.run (h : p.Sound) (moves : List Move) : (p.run moves).Sound := by
  induction moves generalizing p with
  | nil => exact h
  | cons m moves ih => exact ih (h.step m)

theorem sinks_length_step (m : Move) : (p.step m).sinks.length = p.sinks.length := by
  cases m with
  | emit e => rfl
  | receive =>
    rcases receive_cases p with h | ⟨-, -, -, -, h⟩ | ⟨e, rest, -, -, -, h⟩ <;> rw [h]
  | write ok => cases h : p.taken <;> cases ok <;> simp [step, h]
  | close => rfl

theorem sinks_length_run (p : Publisher) (moves : List Move) :
    (p.run moves).sinks.length = p.sinks.length := by
  induction moves generalizing p with
  | nil => rfl
  | cons m moves ih => rw [run_cons, ih, sinks_length_step]

theorem capacity_run (p : Publisher) (moves : List Move) : (p.run moves).capacity = p.capacity := by
  induction moves generalizing p with
  | nil => rfl
  | cons m moves ih => rw [run_cons, ih, capacity_step]

/-- The worker's own moves from now on, with `answer` the store's answer to each write: it
writes the event in its hand, then takes and writes each queued event in turn. -/
def flush (p : Publisher) (answer : Event → Bool) : List Move :=
  p.taken.elim [] (fun e => [.write (answer e)]) ++
    p.queue.flatMap fun e => [.receive, .write (answer e)]

/-- The worker's moves once the queue is closed: it flushes, then finds the queue closed and
empty and ends. -/
def finishing (p : Publisher) (answer : Event → Bool) : List Move := p.flush answer ++ [.receive]

/-- Writing the event in hand empties the hand and records the write. -/
theorem step_write_of_taken (ht : p.taken = some e) (a : Bool) :
    (p.step (.write a)).taken = none ∧ (p.step (.write a)).queue = p.queue ∧
      (p.step (.write a)).running = p.running ∧ (p.step (.write a)).closed = p.closed ∧
      (p.step (.write a)).writes = p.writes ++ [(e, a)] := by
  simp [step, ht]

/-- An idle running worker takes and writes the queued events in order, and is idle again. -/
theorem run_drain (answer : Event → Bool) (qs : List Event) :
    ∀ p : Publisher, p.running = true → p.taken = none → p.queue = qs →
      let q := p.run (qs.flatMap fun e => [.receive, .write (answer e)])
      q.running = true ∧ q.taken = none ∧ q.queue = [] ∧ q.closed = p.closed ∧
        q.writes = p.writes ++ qs.map fun e => (e, answer e) := by
  -- on the queued events: each round takes the head in hand and writes it
  induction qs with
  | nil => intro p hr ht hq; simp [hr, ht, hq]
  | cons e rest ih =>
    intro p hr ht hq
    have htake : p.step .receive = { p with queue := rest, taken := some e } := by
      simp [step, hr, ht, hq]
    obtain ⟨ht', hq', hr', hc', hw'⟩ :=
      step_write_of_taken (p := p.step .receive) (e := e) (by rw [htake]) (answer e)
    have hround := ih ((p.step .receive).step (.write (answer e)))
      (by rw [hr', htake]; exact hr) ht' (by rw [hq', htake])
    simp only [List.flatMap_cons, List.cons_append, List.nil_append, run_cons]
    refine ⟨hround.1, hround.2.1, hround.2.2.1, ?_, ?_⟩
    · rw [hround.2.2.2.1, hc', htake]
    · rw [hround.2.2.2.2, hw', htake]
      simp

/-- After the flush the worker's hand and the queue are empty, and every event it held or that
was queued has been written, in that order; this needs only that an ended worker left nothing
behind, which every reachable state has (`Sound.ended`). -/
theorem run_flush (hend : p.running = false → p.taken = none ∧ p.queue = [])
    (answer : Event → Bool) :
    let q := p.run (p.flush answer)
    q.running = p.running ∧ q.taken = none ∧ q.queue = [] ∧ q.closed = p.closed ∧
      q.writes = p.writes ++ (p.taken.toList ++ p.queue).map fun e => (e, answer e) := by
  cases hr : p.running
  · -- an ended worker holds nothing and the queue is empty: there is nothing to flush
    obtain ⟨ht, hq⟩ := hend hr
    simp [flush, ht, hq, hr]
  · cases ht : p.taken with
    | none =>
      have hd := run_drain answer p.queue p hr ht rfl
      simpa [flush, ht] using hd
    | some e =>
      obtain ⟨ht', hq', hr', hc', hw'⟩ := step_write_of_taken ht (answer e)
      have hd := run_drain answer p.queue (p.step (.write (answer e))) (hr' ▸ hr) ht' hq'
      simp only [flush, ht, Option.elim, List.singleton_append, run_cons]
      refine ⟨hd.1, hd.2.1, hd.2.2.1, hd.2.2.2.1.trans hc', ?_⟩
      rw [hd.2.2.2.2, hw']
      simp

/-- Once the queue is closed, the worker's own moves end it, whatever the store answers. -/
theorem Sound.finishes (h : p.Sound) (hc : p.closed = true) (answer : Event → Bool) :
    (p.run (p.finishing answer)).running = false := by
  obtain ⟨-, ht, hq, hc', -⟩ := run_flush (fun hr => (h.ended hr).2) answer
  rw [finishing, run_append, run_cons, run_nil]
  cases hr : (p.run (p.flush answer)).running
  · -- the worker had already ended: the last receive changes nothing
    simp [Publisher.step, hr]
  · -- it finds the queue closed and empty, and ends
    simp [Publisher.step, hr, ht, hq, hc', hc]

/-- Across every interleaving of emits, the worker's moves and closes, from a publisher with a
queue of `n` events and `k` sinks: the queued events are, in order, the written ones, the one in
the worker's hand and those still queued; the store holds exactly the written events it
accepted, and each of the `k` sinks exactly what the store holds; once the worker has ended,
which is when a `Close` returns, every queued event has been written once and in order; an emit
drops its event exactly when the queue is open and holds `n` events; a later `Close` changes
nothing; and once the queue is closed, the worker's own moves end it. -/
theorem queued_events_are_written_once_in_order (n k : Nat) (moves : List Move) :
    let p := (start n k).run moves
    p.queuedEvents = p.writes.map Prod.fst ++ p.taken.toList ++ p.queue ∧
      p.stored = p.accepted ∧ p.sinks.length = k ∧ (∀ log ∈ p.sinks, log = p.stored) ∧
      (p.running = false → p.queuedEvents = p.writes.map Prod.fst) ∧
      (∀ e, (p.step (.emit e)).offers.getLast? = some (e, .dropped) ↔
        p.closed = false ∧ p.queue.length = n) ∧
      (p.closed = true → p.step .close = p) ∧
      (p.closed = true → ∀ answer, (p.run (p.finishing answer)).running = false) := by
  intro p
  have h : p.Sound := (sound_start n k).run moves
  have hcap : p.capacity = n := capacity_run (start n k) moves
  refine ⟨h.fifo, h.stored, ?_, h.sinks, fun hr => ?_, fun e => ?_, step_close_of_closed,
    fun hc answer => h.finishes hc answer⟩
  · rw [sinks_length_run]
    simp [start]
  · -- an ended worker holds nothing and left nothing queued
    obtain ⟨-, ht, hq⟩ := h.ended hr
    rw [h.fifo, ht, hq]
    simp
  · rw [offers_step_emit, List.getLast?_concat, ← hcap, ← offer_eq_dropped h.bounded]
    simp

/-- A write the store refuses loses its event: it was queued, the worker wrote it and ended,
yet neither the store nor the sink has it. In the campus the store refuses the write whose
append fails, and the event, delivered rather than dropped, is not in the journal after the
queue is closed. -/
theorem refused_write_loses_queued_event :
    let ev : Event := { ledger := .reputation, action := "account_registered", account := ⟨"a1"⟩ }
    let p := (start 4 1).run [.emit ev, .receive, .write false, .close, .receive]
    let c := ((do Act.emit { now := ⟨0⟩ } ev; Act.closeAudit).exec
      { Campus.fresh { auditBuffer := 4 } 0 with faults := Faults.arm {} "audit.Append" 1 }).2
    p.queuedEvents = [ev] ∧ p.running = false ∧ p.stored = [] ∧ p.sinks = [[]] ∧
      c.dropped = 0 ∧ c.journal.events = [] :=
  ⟨rfl, rfl, rfl, rfl, rfl, rfl⟩

/-- An emit's event is queued, dropped or refused with a panic, as the offer at that moment
says; and it is refused with a panic exactly when a `Close` came before the emit in the run. -/
theorem emit_panics_iff_closed_before (n k : Nat) (moves : List Move) (e : Event) :
    let p := (start n k).run moves
    (p.step (.emit e)).offers.getLast? = some (e, p.offer) ∧
      (p.offer = .panicked ↔ Move.close ∈ moves) := by
  intro p
  refine ⟨by simp, ?_⟩
  rw [offer_eq_panicked, closed_run]
  simp [start]

/-- An emit after a `Close` panics: in the publisher its offer is refused with a panic, and in
the campus the emit fails with the runtime's text for a send on a closed channel. -/
theorem emit_after_close_panics :
    let ev : Event := { ledger := .staking, action := "account_registered", account := ⟨"ann"⟩ }
    ((start 4 1).run [.close, .emit ev]).offers = [(ev, .panicked)] ∧
      ((do Act.closeAudit; Act.emit { now := ⟨0⟩ } ev).exec (Campus.fresh { auditBuffer := 4 } 0)).1 =
        .error (.panic "send on closed channel") :=
  ⟨rfl, rfl⟩

end CampusLedger.Audit.Publisher
