import CampusLedger.Net.Dial
import CampusLedger.Decimal.Natural
/-!
# Brokers of the event stream

A stream client is given seed brokers as addresses. An address in brackets is an IPv6 host,
optionally followed by a separator and a port; an address without a colon is a host on the
default port 9092; an address that does not split as `host:port` is an IPv6 literal on the
default port. A port is a signed 32-bit decimal number.

A client is created only when every seed reads. Connecting then tries every seed in order and
fails with the last seed's failure, since in this network no broker is reached. Creating
topics needs a broker too, so it fails the same way unless no topic is asked for.
-/

namespace CampusLedger.Stream

structure Broker where
  host : String
  port : Int
  deriving DecidableEq, Repr

def defaultBrokerPort : Int := 9092

/-- A port of a broker address, from its octets; an octet that is no ASCII digit is a syntax
fault like any other character. -/
def brokerPort (octets : List UInt8) : Except String Int :=
  (Decimal.parseInteger 32 (String.ofList (octets.map fun b => Char.ofNat b.toNat))).mapError
    fun e => "unable to parse port from addr: " ++ e.messageOf octets

/-- Reads a seed broker's address. After the `]` of a bracketed host, the one octet that should
be the colon is skipped unseen, whatever it is, and the rest is the port. -/
def Broker.parse (addr : String) : Except String Broker :=
  if addr.startsWith "[" then
    match ((addr.drop 1).toString.splitOn "]") with
    | [host, rest] =>
      if rest.isEmpty then .ok ⟨host, defaultBrokerPort⟩
      else (brokerPort (rest.toUTF8.toList.drop 1)).map fun p => ⟨host, p⟩
    | _ => .error ("invalid addr: " ++ addr)
  else if !addr.contains ':' then .ok ⟨addr, defaultBrokerPort⟩
  else
    match Net.splitHostPort addr with
    | .error _ => .ok ⟨addr, defaultBrokerPort⟩
    | .ok (host, port) => (brokerPort port.toUTF8.toList).map fun p => ⟨host, p⟩

def Broker.addr (b : Broker) : String :=
  Net.joinHostPort b.host (Decimal.showInteger b.port)

/-- Why a request to a broker fails: it cannot be dialled. -/
def Broker.failure (b : Broker) : String := "unable to dial: " ++ Net.dialError b.addr

/-- The seeds of a client, or why one of them does not read. -/
def seedsOf (addrs : List String) : Except String (List Broker) := addrs.mapM Broker.parse

/-- Connects a client to its seeds and checks that one answers: the error of the attempt. -/
def connectError (addrs : List String) : String :=
  if addrs.isEmpty then "kafka: no brokers configured"
  else
    match seedsOf addrs with
    | .error e => "create kafka client: " ++ e
    | .ok seeds => "kafka ping failed: " ++ ((seeds.getLast?.map Broker.failure).getD "")

/-- The seed of a client given none: the local host on the default port. -/
def localSeed : Broker := ⟨"127.0.0.1", defaultBrokerPort⟩

/-- Creates topics through a client of the seeds: the error, or none when nothing was asked. -/
def ensureError (seeds : List Broker) (topics : List String) : Option String :=
  if topics.isEmpty then none
  else some ("create topics: " ++ ((seeds.head?.getD localSeed).failure))

end CampusLedger.Stream
