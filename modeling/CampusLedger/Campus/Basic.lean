import CampusLedger.Asset.Bank
import CampusLedger.Reputation.Book
import CampusLedger.Staking.Book
import CampusLedger.Audit.Event
import CampusLedger.Audit.Outbox
import CampusLedger.Activity.Claims
import CampusLedger.Throttle.Window
import CampusLedger.Metrics.Registry
import CampusLedger.Feed.Hub
/-!
# The campus

A campus is one running deployment: the asset bank, the reputation and staking ledgers, the
audit journal with its outbox and sinks, the activity claims, the request windows and the
metrics. Its wiring says which of the optional parts are present.

Every act on the campus may fail, and a failure keeps what already happened: armed faults
that fired, identifiers handed out, bank movements and stored events. Only a ledger
transaction is all or nothing: its books change when its body succeeds.

Identifiers are handed out in order: the k-th is `Uuid.numbered k`.

A fault armed on a named call site makes the next calls there fail instead of running. Each
site has a count of calls left to fail: it goes down by one per failed call and the fault
disarms itself at zero, while a negative count never runs out. Healing a site disarms it.
-/

namespace CampusLedger

/-- The armed call sites and their counts of calls left to fail. -/
structure Faults where
  armed : List (String × Int) := []
  deriving DecidableEq, Repr, Inhabited

namespace Faults

/-- Arms a site for `count` calls, replacing any count it had. -/
def arm (f : Faults) (site : String) (count : Int) : Faults :=
  { armed := (f.armed.filter (·.1 != site)) ++ [(site, count)] }

def heal (f : Faults) (site : String) : Faults := { armed := f.armed.filter (·.1 != site) }

/-- The count of a site: zero when unarmed. -/
def countOf (f : Faults) (site : String) : Int :=
  ((f.armed.find? (·.1 == site)).map (·.2)).getD 0

/-- Calls the site once: whether the call fails, and the faults after it. -/
def trip (f : Faults) (site : String) : Bool × Faults :=
  let n := f.countOf site
  if n == 0 then (false, f)
  else if n < 0 then (true, f)
  else if n == 1 then (true, f.heal site)
  else (true, f.arm site (n - 1))

end Faults


structure Wiring where
  controller : AccountId := ⟨"controller"⟩
  escrow : AccountId := ⟨"escrow"⟩
  /-- Whether the services publish audit events. -/
  audited : Bool := true
  /-- Whether the shared metrics registry is present. -/
  metered : Bool := false
  /-- Whether the activity handler counts its outcomes. -/
  activityMetered : Bool := true
  /-- The capacity of the audit queue; zero publishes at once. -/
  auditBuffer : Nat := 0
  /-- The per-subscriber buffer of the event feed, when present. -/
  feed : Option Nat := none
  /-- The topic of the event stream sink, when present. -/
  streamTopic : Option String := none
  /-- The request limit per caller and its window in nanoseconds, when requests are throttled. -/
  rateLimit : Option (Int × Int) := none
  /-- Whether guarded routes authenticate their callers. -/
  authenticated : Bool := true
  signingKey : String := ""
  issuer : String := ""
  /-- The health checks by name, each with `ok` or the text of its failure. -/
  health : List (String × String) := []
  deriving Inhabited

/-- What an act knows of the request it serves. -/
structure Context where
  now : Instant
  requestId : String := ""
  cancelled : Bool := false
  deriving Inhabited

structure Campus where
  wiring : Wiring
  issued : Nat := 0
  faults : Faults := {}
  bank : Asset.Bank := {}
  reputation : Reputation.Book
  staking : Staking.Book
  journal : Audit.Journal := {}
  outbox : Audit.Outbox := {}
  /-- Events lost to a full audit queue. -/
  dropped : Nat := 0
  /-- Events written to the stream sink. -/
  streamed : List Audit.Event := []
  claims : Activity.Claims
  window : Throttle.Window := {}
  metrics : Metrics.Registry := {}
  hub : Feed.Hub := {}
  deriving Inhabited

/-- Acts on a campus: they may fail, keeping the effects made before the failure. -/
abbrev Act := ExceptT Failure (StateM Campus)

namespace Campus

open Metrics in
def meteredFamilies (w : Wiring) : List Metrics.Family :=
  [Family.fresh "ccms_http_requests_total" "HTTP requests by route pattern, method and status"
      .counter ["route", "method", "status"],
    Family.fresh "ccms_http_request_duration_seconds" "HTTP request latency by route pattern"
      .histogram ["route", "method"],
    Family.fresh "ccms_reputation_operations_total"
      "Reputation ledger operations by operation and outcome" .counter ["operation", "outcome"],
    Family.fresh "ccms_reputation_operation_duration_seconds"
      "Duration of reputation ledger operations" .histogram ["operation"],
    Family.fresh "ccms_reputation_total_users"
      "Accounts ever registered with the reputation ledger" .gauge,
    Family.fresh "ccms_staking_operations_total"
      "Staking ledger operations by operation and outcome" .counter ["operation", "outcome"],
    Family.fresh "ccms_staking_operation_duration_seconds" "Duration of staking ledger operations"
      .histogram ["operation"],
    Family.fresh "ccms_staking_total_users" "Accounts ever registered with the staking ledger"
      .gauge,
    Family.fresh "ccms_staking_total_staked" "Units of the staked asset held in escrow for stakers"
      .gauge,
    Family.fresh "ccms_staking_moved_units_total" "Units moved into or out of escrow by direction"
      .counter ["direction"],
    Family.fresh "ccms_staking_reconcile_drift_units"
      "Escrow holding minus total staked at the last reconciliation" .gauge,
    Family.fresh "ccms_activity_events_total" "Activity events consumed by outcome" .counter
      ["outcome"],
    Family.fresh "ccms_activity_points_total" "Points applied to reputation by pillar" .counter
      ["pillar"]] ++
  (if w.rateLimit.isSome then
    [Family.fresh "ccms_rate_limited_requests_total"
      "Requests rejected by the per-caller rate limit" .counter]
  else []) ++
  (if w.feed.isSome then
    [Family.fresh "ccms_feed_subscribers" "Connected event feed subscribers" .gauge,
      Family.fresh "ccms_feed_dropped_subscribers_total"
        "Subscribers disconnected for falling behind" .counter]
  else [])

/-- A fresh campus of a wiring, with claims living `dedupTtl` nanoseconds. -/
def fresh (w : Wiring) (dedupTtl : Int) : Campus :=
  { wiring := w
    reputation := Reputation.Book.fresh w.controller
    staking := Staking.Book.fresh w.controller w.escrow
    outbox := { capacity := w.auditBuffer }
    claims := { ttl := dedupTtl }
    metrics := if w.metered then { families := meteredFamilies w } else {}
    hub := { buffer := w.feed.getD 64 } }

end Campus

namespace Act

def nextUuid : Act Uuid :=
  modifyGet fun c => (Uuid.numbered (c.issued + 1), { c with issued := c.issued + 1 })

/-- Calls a site that may have a fault armed: whether the call fails. -/
def tripped (site : String) : Act Bool :=
  modifyGet fun c =>
    let (hit, f) := c.faults.trip site
    (hit, { c with faults := f })

/-- Calls a site, failing when a fault is armed there. -/
def faultAt (site : String) : Act Unit := do
  if ← tripped site then throw (.injected site)

/-- Updates the shared metrics, when the campus has them. -/
def meter (g : Metrics.Registry → Metrics.Registry) : Act Unit :=
  modify fun c => if c.wiring.metered then { c with metrics := g c.metrics } else c

/-- Fails when the request was cancelled, naming what was aborted. -/
def checkContext (ctx : Context) (what : String) : Act Unit :=
  if ctx.cancelled then throw (.wrapCoded .timeout (what ++ ": context cancelled") (.context .canceled))
  else pure ()

/-- Delivers a stored event to the feed and the stream sink. An event whose time cannot be
written has no record, so the stream sink sends nothing for it. -/
def deliver (e : Audit.Event) : Act Unit := do
  let c ← get
  if c.wiring.feed.isSome then
    let (fellBehind, hub) := c.hub.deliver e
    set { c with hub }
    for _ in List.range fellBehind do
      meter fun r => (r.inc "ccms_feed_dropped_subscribers_total").add "ccms_feed_subscribers" [] (-1)
  if (← get).wiring.streamTopic.isSome && e.timestamp.writable then
    -- a failed send is only reported through the send's callback; the record stands
    let _ ← tripped "producer.Produce"
    modify fun c => { c with streamed := c.streamed ++ [e] }

/-- Stores an event and delivers it; a store fault loses the event. -/
def write (e : Audit.Event) : Act Unit := do
  if ← tripped "audit.Append" then return
  modify fun c => { c with journal := c.journal.append e }
  deliver e

/-- Publishes the audit event of a committed operation, giving it the next identifier, its
category, and the request's time and identifier where it has none. -/
def emit (ctx : Context) (e : Audit.Event) : Act Unit := do
  if !(← get).wiring.audited then return
  let id ← nextUuid
  let e : Audit.Event :=
    { e with id, category := Audit.category e.action, timestamp := ctx.now,
             requestId := if e.requestId.isEmpty then ctx.requestId else e.requestId }
  let (d, outbox) := (← get).outbox.accept e
  modify fun c => { c with outbox }
  match d with
  | .deliver => write e
  | .wait => pure ()
  | .drop => modify fun c => { c with dropped := c.dropped + 1 }
  | .closed => throw (.panic "send on closed channel")

/-- Ends the audit hold, storing the waiting events. -/
def releaseAudit : Act Unit := do
  let (pending, outbox) := (← get).outbox.release
  modify fun c => { c with outbox }
  for e in pending do write e

/-- Closes the audit queue after storing the waiting events. -/
def closeAudit : Act Unit := do
  let (pending, outbox) := (← get).outbox.close
  modify fun c => { c with outbox }
  for e in pending do write e

def bankResult {α : Type} : Except BankFault α → Act α
  | .ok a => pure a
  | .error f => throw (.bank f)

def mint (asset : AssetId) (issuer : AccountId) (supply : Nat) : Act Unit := do
  faultAt "bank.Mint"
  let b ← bankResult ((← get).bank.mint asset issuer supply)
  modify fun c => { c with bank := b }

def optIn (asset : AssetId) (holder : AccountId) : Act Unit := do
  faultAt "bank.OptIn"
  let b ← bankResult ((← get).bank.optIn asset holder)
  modify fun c => { c with bank := b }

/-- Executes a transfer; its identifier is taken only when it succeeds. -/
def transfer (asset : AssetId) (source target : AccountId) (amount : Nat) : Act Transfer := do
  faultAt "bank.Transfer"
  let c ← get
  let (b, t) ← bankResult (c.bank.transfer asset source target amount (Uuid.numbered (c.issued + 1)))
  modify fun c => { c with bank := b, issued := c.issued + 1 }
  pure t

def settled (t : Transfer) : Act Bool := do
  faultAt "bank.Settled"
  pure ((← get).bank.settled t)

def balance (asset : AssetId) (holder : AccountId) : Act Nat := do
  faultAt "bank.Balance"
  bankResult ((← get).bank.balance asset holder)

end Act

end CampusLedger
