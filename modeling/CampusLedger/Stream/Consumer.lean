import CampusLedger.Campus.Basic
/-!
# Consuming a record stream

A consumer polls batches of records, hands each record to a handler and commits the records it
is done with after each batch. A record the handler refuses is tried again, up to a number of
attempts; after the last attempt it is dropped and committed all the same, so that one bad
record never stops the stream. Fetch errors of a batch are only reported.

A run may be cancelled after a given number of handler attempts. Once cancelled, the rest of
the batch is skipped, a record whose retry was pending is not committed, the records already
done are still committed, and the run ends at the next poll. A run also ends when the batches
run out.

The handler acts on the campus; committing may fail, and a failed commit is recorded with its
failure but commits nothing.
-/

namespace CampusLedger.Stream

structure Record where
  offset : Nat
  key : String
  value : List UInt8
  deriving Inhabited

structure Commit where
  offsets : List Nat
  failure : Option Failure := none

/-- A call a consumer makes: a handler attempt at a record, with the handler's report and its
refusal if it refused; or a commit. -/
inductive Call (α : Type) where
  | attempt (r : Record) (report : α) (failure : Option Failure)
  | commit (c : Commit)

def Call.attempt? {α : Type} : Call α → Option (Record × α)
  | .attempt r report _ => some (r, report)
  | .commit _ => none

def Call.commit? {α : Type} : Call α → Option Commit
  | .attempt .. => none
  | .commit c => some c

/-- What a run did: its calls in order. -/
structure Log (α : Type) where
  calls : List (Call α) := []
  cancelled : Bool := false

def Log.attempts {α : Type} (l : Log α) : List (Record × α) := l.calls.filterMap Call.attempt?

def Log.commits {α : Type} (l : Log α) : List Commit := l.calls.filterMap Call.commit?

/-- How a consumer treats refused records and when it is cancelled. -/
structure Policy where
  /-- The most attempts at one record. -/
  attempts : Nat := 5
  /-- The number of handler attempts after which the run is cancelled, if any. -/
  cancelAfter : Option Nat := none

/-- A run of a consumer: it acts on the campus and keeps its log. -/
abbrev Consuming (α : Type) := StateT (Log α) Act

/-- A handler: it reports on a record and refuses it with a failure, or accepts it. -/
abbrev Handler (α : Type) := Record → Act (α × Option Failure)

/-- Calls the handler once, logging the attempt and cancelling the run when the policy says. -/
def attemptOnce {α : Type} (p : Policy) (h : Handler α) (r : Record) : Consuming α (Option Failure) := do
  let (report, failure) ← liftM (h r)
  modify fun l =>
    { l with calls := l.calls ++ [.attempt r report failure],
             cancelled := l.cancelled || p.cancelAfter == some (l.attempts.length + 1) }
  pure failure

/-- Tries a record from attempt `k` on, with `left` attempts left: whether it may be
committed. -/
def tryRecord {α : Type} (p : Policy) (h : Handler α) (r : Record) : Nat → Consuming α Bool
  | 0 => pure true
  | left + 1 => do
    match ← attemptOnce p h r with
    | none => pure true
    | some _ =>
      if left == 0 then pure true
      else if (← get).cancelled then pure false
      else tryRecord p h r left

/-- Handles the next record of a batch after the records `done`: it is skipped once the run is
cancelled, and joins them when it may be committed. -/
def handleRecord {α : Type} (p : Policy) (h : Handler α) (done : List Record) (r : Record) :
    Consuming α (List Record) := do
  if (← get).cancelled then pure done
  else if ← tryRecord p h r p.attempts then pure (done ++ [r])
  else pure done

/-- Handles a batch's records in order, giving the ones done. -/
def handleBatch {α : Type} (p : Policy) (h : Handler α) (records : List Record) :
    Consuming α (List Record) :=
  records.foldlM (handleRecord p h) []

/-- Commits the records done, failing when a fault is armed on the commit. -/
def commit {α : Type} (done : List Record) : Consuming α Unit := do
  let failure := if ← liftM (Act.tripped "kafka.Commit") then some (Failure.injected "kafka.Commit")
    else none
  modify fun l => { l with calls := l.calls ++ [.commit { offsets := done.map (·.offset), failure }] }

/-- Polls the batches in order until the run is cancelled or they run out, giving the number
of batches never polled. -/
def consume {α : Type} (p : Policy) (h : Handler α) : List (List Record) → Consuming α Nat
  | [] => pure 0
  | batch :: rest => do
    if (← get).cancelled then return rest.length
    let done ← handleBatch p h batch
    if !done.isEmpty then commit done
    consume p h rest

/-- The offsets committed without failure, in order. -/
def Log.committed {α : Type} (l : Log α) : List Nat :=
  l.commits.flatMap fun c => if c.failure.isSome then [] else c.offsets

end CampusLedger.Stream
