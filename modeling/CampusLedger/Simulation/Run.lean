import CampusLedger.Simulation.Ledger
import CampusLedger.Simulation.Http
import CampusLedger.Simulation.Stream
import CampusLedger.Simulation.Feed
import CampusLedger.Simulation.Checks
import CampusLedger.Simulation.Script
/-!
# Running a simulation script

A script names the options of the campus and a list of steps. The clock starts at
2024-01-01T00:00:00Z; a step may set it to an RFC 3339 time and then advance it by whole
seconds before it runs. A time that does not read refuses the step and leaves the clock as it
was. Spans given in seconds (the advance, the rate-limit window and the claim lifetime) become
nanoseconds in a signed 64-bit word and wrap as it does.

The answer lists each step's answer in order. An answer that holds a time whose year lies
outside 0 to 9999 cannot be written, and the whole script is then answered with that failure.
-/

namespace CampusLedger.Simulation

def startOfClock : Instant := Instant.ofSeconds 1704067200

/-- The wiring a script's options ask for, with bearer tokens signed by `signingKey`. -/
def wiringOf (signingKey : String) (opts : Json) : Wiring :=
  let asyncOpts := (opts.get? "async").getD .null
  let feedOpts := opts.get? "feed"
  let streamOpts := opts.get? "kafka_sink"
  { controller := if opts.has "controller" then ⟨opts.textAt "controller"⟩ else ⟨"controller"⟩
    escrow := if opts.has "escrow" then ⟨opts.textAt "escrow"⟩ else ⟨"escrow"⟩
    audited := !opts.boolAt "no_audit"
    metered := opts.boolAt "metrics"
    activityMetered := !opts.boolAt "no_activity_metrics"
    auditBuffer := (asyncOpts.intAt "buffer").toNat
    feed := feedOpts.map fun f =>
      let b := f.intAt "buffer"
      if b > 0 then b.toNat else 64
    streamTopic := streamOpts.map (·.textAt "topic")
    rateLimit := (opts.get? "rate_limit").map fun r =>
      (r.intAt "limit", Instant.secondsGap (r.intAt "window_s"))
    authenticated := opts.textAt "auth" != "none"
    signingKey
    issuer := "ccms"
    health := ((opts.get? "health").getD .null).members.map fun (name, v) =>
      (name, match v with
        | .str t => t
        | _ => "") }

/-- The session a script starts with: a fresh campus with the armed faults and the audit hold
the options ask for, and the wall clock `wall`. -/
def Session.start (signingKey : String) (wall : Instant) (opts : Json) : Session :=
  let w := wiringOf signingKey opts
  let ttl := if opts.has "dedup_ttl_s" then opts.intAt "dedup_ttl_s" else 86400
  let c := Campus.fresh w (Instant.secondsGap ttl)
  let faults := ((opts.get? "faults").getD .null).members.foldl
    (fun f (site, v) => f.arm site ((Json.asInt? v).getD 0)) c.faults
  let held := ((opts.get? "async").getD .null).boolAt "hold" && w.auditBuffer > 0
  { campus := { c with faults, outbox := { c.outbox with held } }, clock := startOfClock, wall,
    options := opts }

def stepAct (ctx : Context) (kind : String) (step : Json) : Play Json :=
  match reputationStep ctx kind step with
  | some p => p
  | none =>
  match stakingStep ctx kind step with
  | some p => p
  | none =>
  match bankStep kind step with
  | some p => p
  | none =>
  match campusStep ctx kind step with
  | some p => p
  | none =>
  match feedStep kind step with
  | some p => p
  | none =>
  if kind == "http" then httpStep step
  else if kind == "kafka" then streamStep ctx step
  else if kind == "testutil" then checkStep step
  else Play.bad ("unknown step " ++ kind)

/-- The clock a step runs at: the step's time when it gives one, then advanced by its seconds;
the error is why the time does not read. -/
def stepClock (clock : Instant) (step : Json) : Except String Instant := do
  let clock ← match step.get? "time" with
    | some (.str t) => Instant.parse t
    | _ => pure clock
  pure (clock.advance (step.intAt "advance_s"))

/-- Runs one step: sets the clock, then acts. -/
def Session.step (s : Session) (step : Json) : Json × Session :=
  match stepClock s.clock step with
  | .error e => s.frame (Play.bad e)
  | .ok clock =>
    let s := { s with clock }
    let ctx : Context :=
      { now := clock, requestId := step.textAt "request_id", cancelled := step.boolAt "cancelled" }
    s.frame (stepAct ctx (step.textAt "do") step)

/-- The failure of writing an answer that holds a time outside the years 0 to 9999. -/
def unwritableAnswer : Json :=
  .obj [("error", .str "driver"),
    ("message", .str "json: error calling MarshalJSON for type *time.Time: year outside of range [0,9999]")]

/-- Runs a script, giving each step's answer; bearer tokens are signed by `signingKey` and
checked against the wall clock `wall`. -/
def run (signingKey : String) (wall : Instant) (script : Json) : Json :=
  let script := readScript script
  let (answers, _) := (script.listAt "steps").foldl (fun (acc, s) step =>
    let (a, s) := s.step step
    (acc ++ [a], s)) ([], Session.start signingKey wall script)
  let answer := Json.obj [("steps", .arr answers)]
  if answer.unwritable then unwritableAnswer else answer

end CampusLedger.Simulation
