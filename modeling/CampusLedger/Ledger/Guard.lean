import CampusLedger.Identifier
import CampusLedger.Failure
/-!
# The lifecycle guard

A ledger has one controller, fixed when it is created, and is initialized once. Privileged
calls check first that the caller is the controller (an empty caller never is), then that the
ledger is, or for initialization is not yet, initialized.

A ledger hands its store to an operation either for a transaction, which may write, or for a
view of the committed state, which only reads: a write through a view is refused as being in
the wrong state.
-/

namespace CampusLedger.Ledger

/-- The controller and whether initialization has happened. -/
structure Guard where
  controller : AccountId
  initialized : Bool := false
  deriving DecidableEq, Repr, Inhabited

namespace Guard

/-- Refuses every caller but the controller; an empty caller is refused too. -/
def requireController (g : Guard) (caller : AccountId) : Except Failure Unit :=
  if caller.isZero || caller != g.controller then
    .error (.make .unauthorized "caller is not the ledger controller")
  else .ok ()

def requireInitialized (g : Guard) : Except Failure Unit :=
  if g.initialized then .ok () else .error (.make .notInitialized "ledger is not initialized")

/-- A controller-only call on an initialized ledger: the caller first, then initialization. -/
def requirePrivileged (g : Guard) (caller : AccountId) : Except Failure Unit := do
  g.requireController caller
  g.requireInitialized

/-- Initialization: the caller first, then that it has not happened yet. -/
def canInitialize (g : Guard) (caller : AccountId) : Except Failure Unit := do
  g.requireController caller
  if g.initialized then .error (.make .alreadyInitialized "ledger is already initialized")
  else .ok ()

def markInitialized (g : Guard) : Guard := { g with initialized := true }

end Guard


/-- How an operation may use the store it was handed. -/
inductive Access where
  | readWrite
  | readOnly
  deriving DecidableEq, Repr, Inhabited

/-- Runs a write, refused through a read-only store. -/
def Access.write {α : Type} (a : Access) (w : Unit → Except RecordFault α) : Except RecordFault α :=
  match a with
  | .readWrite => w ()
  | .readOnly => .error .invalidState

end CampusLedger.Ledger
