import CampusLedger.Json.Fields
/-!
# Reading scripts

A script and its steps are records: every key is matched to a field by name, regardless of the
case of its ASCII letters, and a key that names no field is ignored. Nested records (the
options of the rate limit, the audit queue, the feed and the stream sink, the weights and
deltas of pillars, a presented transfer, checks and stream batches) are read the same way.
Maps from names, such as the health checks and the armed faults, keep their keys as given.
A request's `json` and an event's `event` are JSON text rather than records: a later member
replaces an earlier one whole, and `null` is the text `null`, not an absent field.
-/

namespace CampusLedger.Simulation

open Json

def scriptFields : List String :=
  ["op", "controller", "escrow", "dedup_ttl_s", "rate_limit", "health", "steps", "metrics",
   "async", "feed", "kafka_sink", "no_audit", "auth", "tx_timeout_ms", "request_timeout_ms",
   "tracer", "faults", "no_activity_metrics"]

def stepFields : List String :=
  ["do", "time", "advance_s", "request_id", "cancelled", "caller", "account", "weights", "delta",
   "accounts", "asset_id", "threshold", "transfer", "amount", "issuer", "supply", "holder",
   "from", "to", "limit", "value", "event", "method", "path", "authorization", "body", "json",
   "remote_addr", "name", "count", "query", "conn", "n", "keep", "batches", "retry",
   "backoff_ms", "cancel_after", "build", "asserts"]

def transferFields : List String := ["receipt", "id", "asset_id", "from", "to", "amount"]

def pillarFields : List String := ["attendance", "voting", "feedback", "certification"]

def checkFields : List String := ["kind", "status", "code", "key", "want"]

def streamRecordFields : List String := ["key", "value", "event", "partition"]

/-- The fields of steps and stream records that hold JSON text as given, `null` included. -/
def rawFields : List String := ["json", "event"]

def fetchErrorFields : List String := ["topic", "partition", "error"]

def batchRecord (v : Json) : Json :=
  nestRecords "errors" (asRecord fetchErrorFields)
    (nestRecords "records" (asRecordKeeping streamRecordFields rawFields)
      (asRecord ["records", "errors"] v))

def stepRecord (v : Json) : Json :=
  let v := asRecordKeeping stepFields rawFields v
  let v := nestRecord "transfer" transferFields v
  let v := nestRecord "weights" pillarFields v
  let v := nestRecord "delta" pillarFields v
  let v := nestRecords "asserts" (asRecord checkFields) v
  nestRecords "batches" batchRecord v

/-- Reads a script: its options and its steps. -/
def readScript (v : Json) : Json :=
  let v := asRecord scriptFields v
  let v := nestRecord "rate_limit" ["limit", "window_s"] v
  let v := nestRecord "async" ["buffer", "hold"] v
  let v := nestRecord "feed" ["buffer"] v
  let v := nestRecord "kafka_sink" ["topic", "default_logger"] v
  nestRecords "steps" stepRecord v

end CampusLedger.Simulation
