import CampusLedger.Audit.Event
/-!
# The event feed hub

Subscribers follow the audit events of one ledger, of one account, or of all. Each subscriber's
connection takes one event at a time and keeps up to `buffer` more waiting; a subscriber whose
connection is full when an event arrives falls behind and is dropped. Shutting the hub down
drops every subscriber, and every subscriber that comes later.

The server side of a dropped subscriber still sends what was delivered to it, then a close
frame: `server shutting down` when the hub is shut by the time the client has read the last
frame, else `subscriber fell behind`. The server side ends once the client has read the close
frame, or when the client goes away.

A client reads frames in order. It stops at the close frame, which every later read reports
again, or when no frame comes while the server side still runs; such a silence leaves the
connection unusable. A connection the client closed reads nothing.
-/

namespace CampusLedger.Feed

/-- Why a subscription ended, as its close frame says. -/
inductive Ending where
  | fellBehind
  | shutdown
  deriving DecidableEq, Repr, Inhabited

def Ending.code : Ending → Nat
  | .fellBehind => 1013
  | .shutdown => 1001

def Ending.reason : Ending → String
  | .fellBehind => "subscriber fell behind"
  | .shutdown => "server shutting down"

structure Subscriber where
  conn : Nat
  ledger : String := ""
  account : AccountId := ⟨""⟩
  /-- Delivered events the client has not read yet, oldest first. -/
  frames : List Json := []
  /-- Whether the hub counts it and delivers to it. -/
  subscribed : Bool := true
  clientClosed : Bool := false
  /-- Whether the server side has ended. -/
  finished : Bool := false
  /-- The close frame the client has read. -/
  closeRead : Option Ending := none
  /-- Whether a read found silence, leaving the connection unusable. -/
  timedOut : Bool := false
  deriving Inhabited

def Subscriber.wants (s : Subscriber) (e : Audit.Event) : Bool :=
  (s.ledger.isEmpty || s.ledger == e.ledger.name) &&
    (s.account.name.isEmpty || s.account == e.account)

/-- The hub: the per-subscriber buffer and every connection ever made, in order. -/
structure Hub where
  buffer : Nat := 64
  subscribers : List Subscriber := []
  shut : Bool := false
  deriving Inhabited

structure Reading where
  frames : List Json := []
  close : Option Ending := none
  timeout : Bool := false
  readError : Option String := none
  /-- Whether the server side ended with this read. -/
  ended : Bool := false

namespace Hub

/-- The number of subscribers the hub delivers to. -/
def size (h : Hub) : Nat := (h.subscribers.filter (·.subscribed)).length

/-- Adds a subscriber under the next connection number. A hub that is shut drops it at once
and its server side ends, so its client reads only the shutdown's close frame. -/
def subscribe (h : Hub) (ledger : String) (account : AccountId) : Nat × Hub :=
  let conn := h.subscribers.length + 1
  (conn, { h with subscribers := h.subscribers ++
    [{ conn, ledger, account, subscribed := !h.shut, finished := h.shut }] })

def updateConn (h : Hub) (conn : Nat) (g : Subscriber → Subscriber) : Hub :=
  { h with subscribers := h.subscribers.map fun s => if s.conn == conn then g s else s }

def conn? (h : Hub) (conn : Nat) : Option Subscriber := h.subscribers.find? (·.conn == conn)

/-- Delivers an event, giving how many subscribers fell behind and the hub after. An event
whose time cannot be written as RFC 3339 text has no frame and reaches nobody. -/
def deliver (h : Hub) (e : Audit.Event) : Nat × Hub :=
  if !e.timestamp.writable then (0, h) else
  let frame := e.toJson.settle
  h.subscribers.foldl (fun (dropped, h) s =>
    if !s.subscribed || !s.wants e then (dropped, h)
    else if s.frames.length ≥ h.buffer + 1 then
      (dropped + 1, h.updateConn s.conn fun s => { s with subscribed := false })
    else (dropped, h.updateConn s.conn fun s => { s with frames := s.frames ++ [frame] })) (0, h)

/-- The client of a connection closes its side: whether it was still subscribed and whether
the server side ended now, and the hub after. -/
def closeClient (h : Hub) (conn : Nat) : (Bool × Bool) × Hub :=
  match h.conn? conn with
  | none => ((false, false), h)
  | some s =>
    if s.clientClosed then ((false, false), h)
    else
      ((s.subscribed, !s.finished),
        h.updateConn conn fun s =>
          { s with clientClosed := true, subscribed := false, finished := true, frames := [] })

/-- Shuts the hub down, giving how many subscribers it dropped and the hub after. -/
def close (h : Hub) : Nat × Hub :=
  (h.size, { h with shut := true,
                    subscribers := h.subscribers.map fun s => { s with subscribed := false } })

/-- The client reads up to `limit` frames, or every frame up to the close when no limit is
given. -/
def read (h : Hub) (conn : Nat) (limit : Option Nat) : Reading × Hub :=
  match h.conn? conn with
  | none => ({}, h)
  | some s =>
    if s.clientClosed then ({ readError := some "connection closed" }, h)
    else if s.timedOut then ({ timeout := true }, h)
    else
      match s.closeRead with
      | some e => ({ close := some e }, h)
      | none =>
        let n := limit.getD s.frames.length
        let taken := s.frames.take n
        let rest := s.frames.drop n
        if taken.length == n && limit.isSome then
          ({ frames := taken }, h.updateConn conn fun s => { s with frames := rest })
        else if s.subscribed then
          ({ frames := taken, timeout := true },
            h.updateConn conn fun s => { s with frames := rest, timedOut := true })
        else
          let e : Ending := if h.shut then .shutdown else .fellBehind
          ({ frames := taken, close := some e, ended := !s.finished },
            h.updateConn conn fun s => { s with frames := rest, closeRead := some e, finished := true })

end Hub

end CampusLedger.Feed
