import CampusLedger.Audit.Event
/-!
# The asynchronous publisher

With a buffer of `n` events the publisher hands events to one background worker through a
queue that holds at most `n` of them. Each party acts on the shared state in atomic moves:

* an `Emit` offers its event to the queue without waiting: the event is queued when there is
  room and dropped when the queue is full; a send on a closed queue panics;
* the worker takes the next event from the queue, and ends once the queue is closed and empty;
* the worker writes the event it took: it appends it to the store and, when the store accepts
  it, hands it to every sink; a refused event is only logged;
* a `Close` closes the queue the first time and does nothing after; it returns once the worker
  has ended.

A run is any interleaving of these moves, so what holds after every run holds for every timing
of the worker relative to the callers. A move that cannot happen yet (the worker taking from an
empty open queue, or writing with nothing in hand) leaves the state as it is.
-/

namespace CampusLedger.Audit

inductive Offer where
  | queued
  | dropped
  /-- The queue was closed: the send panics. -/
  | panicked
  deriving DecidableEq, Repr

/-- One atomic move of a caller, of the worker or of a `Close`. -/
inductive Move where
  /-- An `Emit` offers its event to the queue. -/
  | emit (e : Event)
  /-- The worker takes the next event, or ends once the queue is closed and empty. -/
  | receive
  /-- The worker writes the event it took; `accepted` is the store's answer. -/
  | write (accepted : Bool)
  /-- A `Close` call closes the queue. -/
  | close
  deriving DecidableEq, Repr

/-- The shared state of the publisher, its store and its sinks. -/
structure Publisher where
  capacity : Nat
  queue : List Event := []
  closed : Bool := false
  /-- The event the worker took from the queue and has not written yet. -/
  taken : Option Event := none
  running : Bool := true
  /-- The worker's writes, in order, each with the store's answer. -/
  writes : List (Event × Bool) := []
  /-- The events in the store, in order. -/
  stored : List Event := []
  /-- What each sink received, in order. -/
  sinks : List (List Event) := []
  /-- The events offered by `Emit` calls, in order, each with what became of it. -/
  offers : List (Event × Offer) := []

namespace Publisher

/-- A publisher with a queue for `n` events and `k` sinks; its worker is running. -/
def start (n k : Nat) : Publisher := { capacity := n, sinks := List.replicate k [] }

def offer (p : Publisher) : Offer :=
  if p.closed then .panicked else if p.queue.length < p.capacity then .queued else .dropped

def step (p : Publisher) : Move → Publisher
  | .emit e =>
    { p with queue := if p.offer = .queued then p.queue ++ [e] else p.queue
             offers := p.offers ++ [(e, p.offer)] }
  | .receive =>
    if p.running && p.taken.isNone then
      p.queue.head?.elim (if p.closed then { p with running := false } else p)
        fun e => { p with queue := p.queue.tail, taken := some e }
    else p
  | .write accepted =>
    p.taken.elim p fun e =>
      { p with taken := none
               writes := p.writes ++ [(e, accepted)]
               stored := if accepted then p.stored ++ [e] else p.stored
               sinks := if accepted then p.sinks.map (· ++ [e]) else p.sinks }
  | .close => { p with closed := true }

def run (p : Publisher) (moves : List Move) : Publisher := moves.foldl step p

end Publisher

end CampusLedger.Audit
