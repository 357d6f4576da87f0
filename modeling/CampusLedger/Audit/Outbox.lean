import CampusLedger.Audit.Event
/-!
# The audit outbox

Events are published either at once or through a bounded queue drained in the background. A
drained queue behaves as publishing at once, except while the store is held: then the drain
waits inside its first event, the next `capacity` events wait in the queue, and any further
event is dropped. Releasing the hold stores the waiting events in order. Once the queue is
closed, publishing through it is a fault of the program.
-/

namespace CampusLedger.Audit

/-- The state of the background queue; a capacity of zero publishes at once. -/
structure Outbox where
  capacity : Nat := 0
  held : Bool := false
  waiting : List Event := []
  closed : Bool := false
  deriving Inhabited

inductive Dispatch where
  /-- The event is stored and delivered now. -/
  | deliver
  /-- The event waits for the hold to end. -/
  | wait
  /-- The queue is full and the event is lost. -/
  | drop
  | closed
  deriving DecidableEq, Repr

namespace Outbox

def queued (o : Outbox) : Bool := o.capacity > 0

def accept (o : Outbox) (e : Event) : Dispatch × Outbox :=
  if !o.queued then (.deliver, o)
  else if o.closed then (.closed, o)
  else if !o.held then (.deliver, o)
  else if o.waiting.length < o.capacity + 1 then (.wait, { o with waiting := o.waiting ++ [e] })
  else (.drop, o)

/-- Ends the hold, giving the waiting events in order. -/
def release (o : Outbox) : List Event × Outbox := (o.waiting, { o with held := false, waiting := [] })

/-- Closes the queue after ending the hold, giving the waiting events in order. -/
def close (o : Outbox) : List Event × Outbox :=
  let (pending, o) := o.release
  (pending, { o with closed := o.queued })

end Outbox

end CampusLedger.Audit
