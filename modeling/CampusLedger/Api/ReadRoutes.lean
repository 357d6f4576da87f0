import CampusLedger.Api.Call
import CampusLedger.Metrics.Exposition
/-!
# Dashboard, history, health and metrics routes

All open. The history lists an account's events oldest first when the query names one, and
otherwise the newest events first, fifty unless a limit between one and five hundred is given.
The health check reports `ok` when every dependency answers and `degraded`, with status 503,
when one does not; the checks are listed by name when there are any.
-/

namespace CampusLedger.Api

open Http

def defaultHistoryLimit : Int := 50

def maxHistoryLimit : Int := 500

def historyLimit (raw : List UInt8) : Except Failure Int :=
  let refused : Failure :=
    badRequest ("limit must be between 1 and " ++ toString maxHistoryLimit)
  if raw.isEmpty then .ok defaultHistoryLimit
  else
    match Decimal.parseInteger 64 (Text.Utf8.toText raw) with
    | .ok n => if n ≤ 0 || n > maxHistoryLimit then .error refused else .ok n
    | .error _ => .error refused

namespace ReadRoutes

def dashboard : Handler := fun c =>
  checked c.account fun account =>
    respond (Dashboard.view c.ctx account) fun v => .ofJson 200 v.toJson

/-- Answers with listed events; a failed listing is internal. -/
def listed (x : Act (List Audit.Event)) : Act Response :=
  respond (tryCatch x fun e => throw (if isPanic e then e else .wrapCoded .internal "failed to list events" e))
    fun es => .ofJson 200 (.obj [("events", eventsJson es)])

def history : Handler := fun c =>
  let raw := c.queryValue "account"
  if !raw.isEmpty then
    checked (AccountId.parse raw) fun account =>
      listed do
        Act.faultAt "audit.ListByAccount"
        pure ((← get).journal.byAccount account)
  else
    checked (historyLimit (c.queryValue "limit")) fun limit =>
      listed do
        Act.faultAt "audit.ListRecent"
        pure ((← get).journal.recent limit)

/-- `GET /healthz`: each check with `ok` or the text of its failure. -/
def health (checks : List (String × String)) : Handler := fun _ =>
  let degraded := checks.any (·.2 != "ok")
  let body := [("status", Json.str (if degraded then "degraded" else "ok"))] ++
    (if checks.isEmpty then [] else [("checks", Json.obj (checks.map fun (k, v) => (k, .str v)))])
  pure (.ofJson (if degraded then 503 else 200) (.obj body))

/-- `GET /metrics`: the exposition text. -/
def metrics : Handler := fun _ => do
  pure ⟨200, .text (← get).metrics.exposition⟩

end ReadRoutes

end CampusLedger.Api
