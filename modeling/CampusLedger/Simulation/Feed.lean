import CampusLedger.Simulation.Http
import CampusLedger.Campus.Feed
/-!
# Feed steps

Feed steps open websocket subscriptions through the server, read them and close them. A
connection is opened by a `GET /events` that asks to switch protocols, with the step's query;
it either switches, giving the connection's number and the hub's count, or is refused with a
status and a body. Reads report the frames read, then the close frame or a silence; a drain
reads up to the close and reports only the first frames asked for.
-/

namespace CampusLedger.Simulation

open Play

def requireFeed : Play Unit := do
  if (← get).campus.wiring.feed.isNone then bad "scenario has no feed"

def requireConnection (conn : Nat) : Play Unit := do
  if ((← get).campus.hub.conn? conn).isNone then
    bad ("no websocket connection " ++ toString conn)

def subscriptionRequest (query requestId : String) : Http.Request :=
  { method := "GET", target := "/events" ++ (if query.isEmpty then "" else "?" ++ query),
    headers := [("X-Request-ID", requestId), ("Connection", "Upgrade"), ("Upgrade", "websocket"),
      ("Sec-WebSocket-Version", "13"), ("Sec-WebSocket-Key", "dGhlIHNhbXBsZSBub25jZQ==")],
    takeover := true }

def connectStep (step : Json) : Play Json := do
  requireFeed
  let s ← get
  let given := step.textAt "request_id"
  let requestId :=
    if given.isEmpty then "ws-" ++ toString (s.campus.hub.subscribers.length + 1) else given
  let req := subscriptionRequest (step.textAt "query") requestId
  let (resp, _) ← serveRequest req
  match resp.body with
  | .switched conn =>
    pure (.obj [("connected", .bool true), ("status", .nat 101), ("conn", .nat conn),
      ("subscribers", .nat (← get).campus.hub.size)])
  | _ =>
    pure (.obj [("connected", .bool false), ("status", .nat resp.status),
      ("body", bodyJson req.target resp)])

/-- The answer of a reading, with the first `keep` frames. -/
def readingJson (r : Feed.Reading) (keep : Nat) : Json :=
  .obj ([("frames", .arr (r.frames.take keep))] ++
    (r.close.map fun e => [("close", Json.obj [("code", .nat e.code), ("reason", .str e.reason)])]).getD [] ++
    (if r.timeout then [("timeout", .bool true)] else []) ++
    (r.readError.map fun t => [("read_error", Json.str t)]).getD [])

def readStep (step : Json) : Play Json := do
  let conn := step.natAt "conn"
  requireConnection conn
  let r ← onCampus (Act.readFeed conn (some (step.natAt "n")))
  pure (readingJson r r.frames.length)

/-- Reads up to the close, keeping the first frames. -/
def drainStep (step : Json) : Play Json := do
  let conn := step.natAt "conn"
  requireConnection conn
  let r ← onCampus (Act.readFeed conn none)
  pure (readingJson r (step.natAt "keep"))

def closeStep (step : Json) : Play Json := do
  let conn := step.natAt "conn"
  requireConnection conn
  onCampus (Act.closeFeedClient conn)
  pure (.obj [("subscribers", .nat (← get).campus.hub.size)])

def shutdownStep : Play Json := do
  requireFeed
  onCampus Act.shutdownFeed
  pure (.obj [("subscribers", .nat (← get).campus.hub.size)])

def feedStep (kind : String) (step : Json) : Option (Play Json) :=
  match kind with
  | "ws.connect" => some (connectStep step)
  | "ws.read" => some (readStep step)
  | "ws.drain" => some (drainStep step)
  | "ws.close" => some (closeStep step)
  | "ws.shutdown" => some shutdownStep
  | _ => none

end CampusLedger.Simulation
