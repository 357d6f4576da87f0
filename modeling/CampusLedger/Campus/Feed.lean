import CampusLedger.Campus.Basic
/-!
# The event feed on a campus

Subscribing, reading, closing and shutting down, with their metrics: the subscriber gauge
follows the hub's count, and the request that opened a subscription is counted, as an answered
`GET /events`, when the server side of the subscription ends.
-/

namespace CampusLedger.Act

def feedRoute : String := "/events"

/-- Counts the request of a subscription whose server side ended. -/
def feedRequestEnded : Act Unit :=
  meter fun m =>
    (m.inc "ccms_http_requests_total" [feedRoute, "GET", "200"]).observe
      "ccms_http_request_duration_seconds" [feedRoute, "GET"]

/-- Subscribes to a ledger's and an account's events, giving the connection number. On a hub
that is shut the subscription ends as it starts. -/
def subscribeFeed (ledger : String) (account : AccountId) : Act Nat := do
  let shut := (← get).hub.shut
  let (conn, hub) := (← get).hub.subscribe ledger account
  modify fun c => { c with hub }
  if shut then feedRequestEnded
  else meter (·.inc "ccms_feed_subscribers")
  pure conn

/-- Reads from a connection, up to `limit` frames or up to the close. -/
def readFeed (conn : Nat) (limit : Option Nat) : Act Feed.Reading := do
  let (r, hub) := (← get).hub.read conn limit
  modify fun c => { c with hub }
  if r.ended then feedRequestEnded
  pure r

def closeFeedClient (conn : Nat) : Act Unit := do
  let ((wasSubscribed, ended), hub) := (← get).hub.closeClient conn
  modify fun c => { c with hub }
  if wasSubscribed then meter (·.add "ccms_feed_subscribers" [] (-1))
  if ended then feedRequestEnded

/-- Shuts the feed down, dropping every subscriber. -/
def shutdownFeed : Act Unit := do
  let (dropped, hub) := (← get).hub.close
  modify fun c => { c with hub }
  meter (·.add "ccms_feed_subscribers" [] (-(Float.ofNat dropped)))

end CampusLedger.Act
