import CampusLedger.Net.Url
import CampusLedger.Net.Dial
import CampusLedger.Decimal.Natural
import CampusLedger.Time.Duration
import CampusLedger.Host.Files
/-!
# The cache's endpoint

The claim cache is named by a URL. `redis:` and `rediss:` URLs name a TCP endpoint: the host
(the local host when empty) and port (6379 when empty), and at most one path segment, the
database number. `unix:` URLs name a socket by their path, which must not be blank.

Query options tune the connection. Each named option takes its last value, and the first value
that does not read is refused; an option that no rule takes is refused after all the others,
with every such name in order. The connection's idle time and lifetime each have an older
name, read only when the newer one is absent.

In this network no cache answers, so connecting fails once the URL reads: a TCP address is not
reached, and a socket path fails as the host's files say.
-/

namespace CampusLedger.Cache

structure Endpoint where
  /-- `tcp` or `unix`. -/
  network : String
  addr : String
  database : Int := 0
  tls : Bool := false
  deriving Repr

inductive OptionKind where
  | number
  | duration
  | flag
  | text
  deriving DecidableEq, Repr

/-- Reads a signed decimal number from octets as the reader of plain integers does; a refusal
quotes the octets. -/
def readNumber (value : List UInt8) : Except String Int :=
  match Decimal.parseInteger 64 (Text.Utf8.toText value) with
  | .ok n => .ok n
  | .error e => .error ({ e with reader := "Atoi" }.messageOf value)

/-- Why an option's value does not read, or none. -/
def optionFault (name : String) (kind : OptionKind) (value : List UInt8) : Option String :=
  if value.isEmpty then none
  else
    match kind with
    | .text => none
    | .number =>
      match readNumber value with
      | .ok _ => none
      | .error m => some ("redis: invalid " ++ name ++ " number: " ++ m)
    | .duration =>
      match readNumber value, Duration.parseOctets value with
      | .ok _, _ => none
      | _, .ok _ => none
      | _, .error m => some ("redis: invalid " ++ name ++ " duration: " ++ m)
    | .flag =>
      if ["true", "1", "false", "0"].any (·.toUTF8.toList == value) then none
      else some ("redis: invalid " ++ name ++
        " boolean: expected true/false/1/0 or an empty string, got " ++ Text.quoteOctets value)

/-- The options read in order, each with the kind of value it takes. -/
def optionRules : List (String × OptionKind) :=
  [("protocol", .number), ("client_name", .text), ("max_retries", .number),
   ("min_retry_backoff", .duration), ("max_retry_backoff", .duration),
   ("dial_timeout", .duration), ("read_timeout", .duration), ("write_timeout", .duration),
   ("pool_fifo", .flag), ("pool_size", .number), ("pool_timeout", .duration),
   ("min_idle_conns", .number), ("max_idle_conns", .number), ("max_active_conns", .number),
   ("max_concurrent_dials", .number)]

/-- The options a URL's query asks for, each with its last value. -/
def lastValues (pairs : List (String × List UInt8)) : List (String × List UInt8) :=
  pairs.foldl (fun acc (k, v) =>
    if acc.any (·.1 == k) then acc.map fun (k', v') => if k' == k then (k, v) else (k', v')
    else acc ++ [(k, v)]) []

/-- Checks the query options of an endpoint, giving the database number they name, if any. -/
def checkOptions (tls : Bool) (pairs : List (String × List UInt8)) : Except String (Option Int) := do
  let given := lastValues pairs
  let valueOf (name : String) : List UInt8 := ((given.find? (·.1 == name)).map (·.2)).getD []
  let has (name : String) : Bool := given.any (·.1 == name)
  let database ← match valueOf "db" with
    | [] => pure none
    | d =>
      match readNumber d with
      | .ok n => pure (some n)
      | .error m => throw ("redis: invalid database number: " ++ m)
  let idle := if has "conn_max_idle_time" then "conn_max_idle_time" else "idle_timeout"
  let life := if has "conn_max_lifetime" then "conn_max_lifetime" else "max_conn_age"
  let rules := optionRules ++ [(idle, .duration), (life, .duration)]
  match rules.findSome? fun (name, kind) => optionFault name kind (valueOf name) with
  | some fault => throw fault
  | none => pure ()
  let taken := "db" :: rules.map (·.1) ++ (if tls && has "skip_verify" then ["skip_verify"] else [])
  let left := (given.map (·.1)).filter (!taken.contains ·)
  if !left.isEmpty then
    throw ("redis: unexpected option: " ++ ", ".intercalate (left.mergeSort fun a b => decide (a ≤ b)))
  pure database

/-- The endpoint a URL names; the error is the reason it is refused. -/
def Endpoint.ofUrl (raw : String) : Except String Endpoint := do
  let u ← (Net.Url.parse raw).mapError (·.message)
  match u.scheme with
  | "redis" | "rediss" =>
    let (host, port) := match Net.splitHostPort u.host with
      | .ok (h, p) => (h, p)
      | .error _ => (u.host, "")
    let host := if host.isEmpty then "localhost" else host
    let port := if port.isEmpty then "6379" else port
    let pathOctets := ((Net.unescapePart .path u.rawPath).toOption).getD u.path.toUTF8.toList
    let segments := (Http.splitOctets 47 pathOctets).filter (!·.isEmpty)
    let pathDb ← match segments with
      | [] => pure 0
      | [d] =>
        match readNumber d with
        | .ok n => pure n
        | .error _ => throw ("redis: invalid database number: " ++ Text.quoteOctets d)
      | _ => throw ("redis: invalid URL path: " ++ u.path)
    let tls := u.scheme == "rediss"
    let db ← checkOptions tls u.queryOctets
    pure { network := "tcp", addr := Net.joinHostPort host port,
           database := db.getD pathDb, tls }
  | "unix" =>
    if (Text.trimBlanks u.path).isEmpty then throw "redis: empty unix socket path"
    let db ← checkOptions false u.queryOctets
    pure { network := "unix", addr := u.path, database := db.getD 0 }
  | other => throw ("redis: invalid URL scheme: " ++ other)

def Endpoint.failure (files : Host.Tree) (e : Endpoint) : String :=
  if e.network == "unix" then
    "dial unix " ++ e.addr ++ ": connect: " ++ Host.socketRefusal files e.addr
  else Net.dialError e.addr

/-- Connects to the cache a URL names: the error of the attempt. -/
def connectError (files : Host.Tree) (raw : String) : String :=
  match Endpoint.ofUrl raw with
  | .error e => "parse redis URL: " ++ e
  | .ok e => "redis ping failed: " ++ e.failure files

end CampusLedger.Cache
