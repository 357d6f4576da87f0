import CampusLedger.Simulation.Ledger
import CampusLedger.Stream.Consumer
/-!
# Stream steps

A stream step runs the activity consumer over batches of records. Records are numbered from
zero across the whole step, and each carries a key and a value: raw text, or a JSON event sent
as its text. Every handler attempt is reported with the record's offset and key and what the
activity handler did; commits are reported with their offsets and failure, and the offsets
that were committed are listed in order.
-/

namespace CampusLedger.Simulation

open Play

/-- The records of a step's batches, numbered across the step. -/
def batchesOf (step : Json) : List (List Stream.Record) :=
  ((step.listAt "batches").foldl (fun (acc, next) b =>
    let rs := (b.listAt "records").zipIdx.map fun (r, i) =>
      let value := messageText r
      ({ offset := next + i, key := r.textAt "key", value } : Stream.Record)
    (acc ++ [rs], next + rs.length)) ([], 0)).1

/-- The consumer policy a step asks for: the retry count when positive, and the point of
cancellation. -/
def policyOf (step : Json) : Stream.Policy :=
  { attempts := if step.intAt "retry" > 0 then (step.intAt "retry").toNat else 5
    cancelAfter := if step.has "cancel_after" then some (step.natAt "cancel_after") else none }

def streamStep (ctx : Context) (step : Json) : Play Json := do
  let metered := (← get).campus.wiring.activityMetered
  let handler : Stream.Handler Json := fun r => do
    readOutcomeCounters
    let h ← Activity.handle ctx r.value
    pure (handledJson metered h, h.failure)
  let (unpolled, log) ← onCampus ((Stream.consume (policyOf step) handler (batchesOf step)).run {})
  let attempts := log.attempts.map fun (r, report) =>
    Json.obj ([("offset", .nat r.offset), ("key", .str r.key)] ++ report.members)
  let commits := log.commits.map fun c =>
    Json.obj ([("offsets", .arr (c.offsets.map Json.nat))] ++
      (c.failure.map fun e => [("error", Json.str e.text)]).getD [])
  pure (.obj [("attempts", .arr attempts), ("committed", .arr (log.committed.map Json.nat)),
    ("commits", .arr commits), ("unpolled_batches", .nat unpolled), ("returned_error", .null)])

end CampusLedger.Simulation
