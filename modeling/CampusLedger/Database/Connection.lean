import CampusLedger.Net.Url
import CampusLedger.Net.Dial
import CampusLedger.Decimal.Natural
import CampusLedger.Host.Files
/-!
# The database connection string

The database is named by a connection string: a `postgres://` or `postgresql://` URL, or
`key=value` pairs separated by blanks, where a value may be single-quoted and a backslash
escapes the next character. In key/value pairs the last value of a key counts; in a URL's query
the first one does, and it overrides what the URL's authority and path say.

Settings come from four layers, each overriding the ones before it: defaults (the socket
directory `/tmp` as host, port 5432, the process's user `root`, files under its home `/root`),
the `PG…` environment variables that are set and not empty, a named service, and the string.
Naming a service refuses the string too: the service file either does not read as one, or,
when it is empty, has no such service.

Reading checks, in order: the form of the string, the service, the connection timeout (a
non-negative number of seconds), then for each host its port (1 to 65535; hosts past the last
port take the first one) and, unless the host is a socket directory, its TLS setup, the
attribute a session must have, and last the statement and description cache capacities (32-bit
integers) and the default way of running queries. A refusal quotes the string with any
password hidden.

The TLS setup reads a root certificate file when one is named (other than `system`, which
demands full verification), which must hold certificates; checks the mode; and needs a client
certificate and key together, reading the key and then the certificate. No file of the host
holds a private key: a key file without a PEM block is refused as undecodable, and one of
certificates fails when the pair is loaded. The `prefer` mode tries TLS first and then without, `allow` the other
way round, `disable` only without, and the verifying modes only with TLS; direct negotiation
turns `prefer` into `require`.

Connecting tries every host in turn. A host given by name is looked up first, once for each
TLS choice; a socket directory (an absolute path, or a path after a capital drive letter and a
backslash) is dialled as a Unix socket, at a lexically cleaned path, where nothing listens. In
this network every attempt fails. The refusal lists the lookups that failed and then each
attempt dialled; when no host looked up, it is a resolving error of the lookups alone.
-/

namespace CampusLedger.Database

/-- Blank octets of the key/value form. -/
def isBlankChar (c : Char) : Bool := c == ' ' || c == '\t' || c == '\n' || c == '\r' || c == '\x0b' || c == '\x0c'

/-- Replaces, left to right, each occurrence of the pair `a b` that does not overlap an earlier
one by `r`. -/
def replacePair (a b r : Char) : List Char → List Char
  | x :: y :: rest =>
    if x == a && y == b then r :: replacePair a b r rest else x :: replacePair a b r (y :: rest)
  | cs => cs

/-- Replaces the escapes of a value: first every `\\` by one backslash, then, in what that
gives, every `\'` by a quote. -/
def unescapeValue (cs : List Char) : List Char :=
  replacePair '\\' '\'' '\'' (replacePair '\\' '\\' '\\' cs)

/-- The end of an unquoted value: the index of the first blank, skipping escaped characters;
none when a backslash ends the text. -/
def plainEnd : List Char → Nat → Option Nat
  | [], n => some n
  | '\\' :: [], _ => none
  | '\\' :: _ :: rest, n => plainEnd rest (n + 2)
  | c :: rest, n => if isBlankChar c then some n else plainEnd rest (n + 1)

/-- The end of a quoted value: the index of the closing quote, skipping escaped characters. -/
def quotedEnd : List Char → Nat → Option Nat
  | [], _ => none
  | '\\' :: [], _ => none
  | '\\' :: _ :: rest, n => quotedEnd rest (n + 2)
  | c :: rest, n => if c == '\'' then some n else quotedEnd rest (n + 1)

def settingName (key : String) : String := if key == "dbname" then "database" else key

/-- Reads key/value pairs; the error is the reason. -/
def keyValues (fuel : Nat) (s : List Char) (acc : List (String × String)) :
    Except String (List (String × String)) :=
  match fuel with
  | 0 => .ok acc
  | fuel + 1 =>
    if s.isEmpty then .ok acc
    else if !s.contains '=' then .error "invalid keyword/value"
    else
      let rawKey := s.takeWhile (· != '=')
      let key := String.ofList ((rawKey.dropWhile isBlankChar).reverse.dropWhile isBlankChar).reverse
      let rest := ((s.dropWhile (· != '=')).drop 1).dropWhile isBlankChar
      let read : Except String (String × List Char) :=
        if rest.isEmpty then .ok ("", [])
        else if rest.head? != some '\'' then
          match plainEnd rest 0 with
          | none => .error "invalid backslash"
          | some e => .ok (String.ofList (unescapeValue (rest.take e)), rest.drop (e + 1))
        else
          match quotedEnd (rest.drop 1) 0 with
          | none => .error "unterminated quoted string in connection info string"
          | some e => .ok (String.ofList (unescapeValue ((rest.drop 1).take e)), (rest.drop 1).drop (e + 1))
      match read with
      | .error e => .error e
      | .ok (value, rest) =>
        if key.isEmpty then .error "invalid keyword/value"
        else keyValues fuel rest (acc ++ [(settingName key, value)])

def isBracket (c : Char) : Bool := c == '[' || c == ']'

/-- A URL host entry with every bracket at either end taken off. -/
def trimBrackets (host : String) : String :=
  String.ofList ((host.toList.dropWhile isBracket).reverse.dropWhile isBracket).reverse

/-- Whether a URL host entry is an address alone: an IP literal once its brackets are taken
off, or a text without a colon. -/
def isAddressOnly (host : String) : Bool :=
  (Net.Ip.parse? (trimBrackets host)).isSome || !host.contains ':'

/-- The first value of each key, in the order the keys first appear. -/
def firstValues {α : Type} (pairs : List (String × α)) : List (String × α) :=
  pairs.foldl (fun acc (k, v) => if acc.any (·.1 == k) then acc else acc ++ [(k, v)]) []

/-- A setting's name and value; values are octets, since a URL may decode to octets that
spell no text. -/
abbrev Setting := String × List UInt8

def textSetting (name value : String) : Setting := (name, value.toUTF8.toList)

/-- Reads a connection URL into settings, later ones overriding earlier ones; the error is the
reason. -/
def urlSettings (raw : String) : Except String (List Setting) := do
  let u ← (Net.Url.parse raw).mapError (·.reason)
  let user : List Setting := match u.user with
    | some i => [textSetting "user" i.name] ++ ((i.password.map fun p => [textSetting "password" p]).getD [])
    | none => []
  let entries := (u.host.splitOn ",").filter (!·.isEmpty)
  let split ← entries.mapM fun h =>
    if isAddressOnly h then pure (some (trimBrackets h), none)
    else
      match Net.splitHostPort h with
      | .ok (host, port) =>
        pure (if host.isEmpty then none else some host, if port.isEmpty then none else some port)
      | .error e => throw ("failed to split host:port in '" ++ h ++ "', err: " ++ e)
  let hosts := split.filterMap (·.1)
  let ports := split.filterMap (·.2)
  let database := (u.path.dropWhile (· == '/')).toString
  pure (user ++
    (if hosts.isEmpty then [] else [textSetting "host" (",".intercalate hosts)]) ++
    (if ports.isEmpty then [] else [textSetting "port" (",".intercalate ports)]) ++
    (if database.isEmpty then [] else [textSetting "database" database]) ++
    firstValues (u.queryOctets.map fun (k, v) => (settingName k, v)))

/-- Replaces, left to right, each match that `matchAt` finds at a position by the replacement;
`matchAt` gives the length of the match starting there. Every step consumes a character, so
`fuel` above the text's length is enough. -/
def replaceMatches (matchAt : List Char → Option Nat) (replacement : List Char) :
    Nat → List Char → List Char
  | 0, cs => cs
  | _ + 1, [] => []
  | fuel + 1, c :: rest =>
    match matchAt (c :: rest) with
    | some n => replacement ++ replaceMatches matchAt replacement fuel ((c :: rest).drop (max n 1))
    | none => c :: replaceMatches matchAt replacement fuel rest

def replaceAll (matchAt : List Char → Option Nat) (replacement : String) (s : String) : String :=
  String.ofList (replaceMatches matchAt replacement.toList (s.length + 1) s.toList)

def quotedPassword (cs : List Char) : Option Nat :=
  let pat := "password='".toList
  if cs.take pat.length != pat then none
  else
    let value := (cs.drop pat.length).takeWhile (· != '\'')
    if cs.length > pat.length + value.length then some (pat.length + value.length + 1) else none

def plainPassword (cs : List Char) : Option Nat :=
  let pat := "password=".toList
  if cs.take pat.length != pat then none
  else some (pat.length + ((cs.drop pat.length).takeWhile (· != ' ')).length)

/-- A match of a colon, a run of characters other than `:` and `@`, and an `@`. -/
def passwordBeforeAt (cs : List Char) : Option Nat :=
  match cs with
  | ':' :: rest =>
    let run := rest.takeWhile fun c => c != ':' && c != '@'
    if !run.isEmpty && (rest.drop run.length).head? == some '@' then some (run.length + 2) else none
  | _ => none

def isUrlForm (s : String) : Bool := s.startsWith "postgres://" || s.startsWith "postgresql://"

/-- A connection string with its password hidden. A URL that reads is written back with the
password replaced; any other text has its password values and the text between a colon and
an `@` replaced. -/
def redact (s : String) : String :=
  match (if isUrlForm s then (Net.Url.parse s).toOption else none) with
  | some u =>
    let hidden : Option Net.Userinfo := u.user.map fun (i : Net.Userinfo) =>
      { i with password := i.password.map fun _ => "xxxxx" }
    Net.Url.text { u with user := hidden }
  | none =>
    replaceAll passwordBeforeAt ":xxxxxx@"
      (replaceAll plainPassword "password=xxxxx" (replaceAll quotedPassword "password=xxxxx" s))

/-- A refused connection string: the reason and, when there is one, its cause. -/
structure ParseFault where
  reason : String
  cause : Option String := none

def ParseFault.message (conn : String) (f : ParseFault) : String :=
  "cannot parse `" ++ redact conn ++ "`: " ++ f.reason ++
    ((f.cause.map fun c => " (" ++ c ++ ")").getD "")

/-- The settings that hold when nothing else gives them. -/
def defaultSettings : List Setting :=
  [textSetting "host" "/tmp", textSetting "port" "5432", textSetting "user" "root",
   textSetting "passfile" "/root/.pgpass", textSetting "servicefile" "/root/.pg_service.conf",
   textSetting "target_session_attrs" "any"]

def environmentNames : List (String × String) :=
  [("PGHOST", "host"), ("PGPORT", "port"), ("PGDATABASE", "database"), ("PGUSER", "user"),
   ("PGPASSWORD", "password"), ("PGPASSFILE", "passfile"), ("PGAPPNAME", "application_name"),
   ("PGCONNECT_TIMEOUT", "connect_timeout"), ("PGSSLMODE", "sslmode"), ("PGSSLKEY", "sslkey"),
   ("PGSSLCERT", "sslcert"), ("PGSSLSNI", "sslsni"), ("PGSSLROOTCERT", "sslrootcert"),
   ("PGSSLPASSWORD", "sslpassword"), ("PGSSLNEGOTIATION", "sslnegotiation"),
   ("PGTARGETSESSIONATTRS", "target_session_attrs"), ("PGSERVICE", "service"),
   ("PGSERVICEFILE", "servicefile"), ("PGTZ", "timezone"), ("PGOPTIONS", "options")]

/-- The settings the environment gives: each variable that is set and not empty. -/
def environmentSettings (env : List (String × String)) : List Setting :=
  environmentNames.filterMap fun (var, name) =>
    match env.find? (·.1 == var) with
    | some (_, v) => if v.isEmpty then none else some (textSetting name v)
    | none => none

/-- A setting's octets, the last given value winning; empty when none is given. -/
def settingOctets (given : List Setting) (key : String) : List UInt8 :=
  match given.reverse.find? (·.1 == key) with
  | some (_, v) => v
  | none => []

def settingOf (given : List Setting) (key : String) : String :=
  Text.Utf8.toText (settingOctets given key)

def hasSetting (given : List Setting) (key : String) : Bool := given.any (·.1 == key)

/-- The shortest slash-separated path naming the same place, by lexical steps alone: runs of
slashes become one, `.` segments go, and `..` takes away the segment before it, or goes itself
at the root. -/
def cleanPath (p : String) : String :=
  if p.isEmpty then "."
  else
    let rooted := p.startsWith "/"
    let segments := (p.splitOn "/").foldl (fun acc seg =>
      if seg.isEmpty || seg == "." then acc
      else if seg == ".." then
        match acc with
        | s :: rest => if s == ".." then ".." :: acc else rest
        | [] => if rooted then [] else [".."]
      else seg :: acc) []
    let body := "/".intercalate segments.reverse
    if rooted then "/" ++ body
    else if body.isEmpty then "." else body

/-- Whether a host names a socket directory: an absolute path, or a capital drive letter, a
colon and a backslash. -/
def isSocketDirectory (host : String) : Bool :=
  host.startsWith "/" ||
    match host.toList with
    | d :: ':' :: '\\' :: _ => d.isUpper
    | _ => false

/-- One way of reaching the server: a host, a port and whether TLS is tried. -/
structure Attempt where
  host : String
  port : Nat
  tls : Bool
  deriving DecidableEq, Repr

structure Connection where
  user : String
  database : String
  attempts : List Attempt
  deriving Repr

def sslModes : List String := ["allow", "prefer", "require", "verify-ca", "verify-full"]

/-- The TLS choices of a TCP host, in the order they are tried: `true` tries TLS. -/
def tlsChoices (host : Host.Tree) (setting : String → String) : Except ParseFault (List Bool) := do
  let fault (cause : String) : ParseFault := ⟨"failed to configure TLS", some cause⟩
  let given := setting "sslmode"
  let mode := if given.isEmpty then "prefer" else given
  let mode := if setting "sslnegotiation" == "direct" && mode == "prefer" then "require" else mode
  let root := setting "sslrootcert"
  let mode ← if root == "system" then pure "verify-full"
    else if root.isEmpty then pure mode
    else
      match Host.read host root with
      | .error e => throw (fault ("unable to read CA file: " ++ e))
      | .ok .certificates => pure mode
      | .ok _ => throw (fault "unable to add CA to cert pool")
  if mode == "disable" then return [false]
  if !(sslModes.contains mode) then throw (fault "sslmode is invalid")
  let cert := setting "sslcert"
  let key := setting "sslkey"
  if cert.isEmpty != key.isEmpty then
    throw (fault "both \"sslcert\" and \"sslkey\" are required")
  if !cert.isEmpty then
    match Host.read host key with
    | .error e => throw (fault ("unable to read sslkey: " ++ e))
    | .ok .certificates => pure ()
    | .ok _ => throw (fault "failed to decode sslkey")
    -- the key's first block is a certificate, so no pair can load
    match Host.read host cert with
    | .error e => throw (fault ("unable to read cert: " ++ e))
    | .ok .certificates =>
      throw (fault "unable to load cert: tls: found a certificate rather than a key in the PEM for the private key")
    | .ok _ => throw (fault "unable to load cert: tls: failed to find any PEM data in certificate input")
  pure (match mode with
    | "allow" => [false, true]
    | "prefer" => [true, false]
    | _ => [true])

def sessionAttributes : List String :=
  ["any", "read-write", "read-only", "primary", "standby", "prefer-standby"]

def queryExecModes : List String :=
  ["cache_statement", "cache_describe", "describe_exec", "exec", "simple_protocol"]

/-- A port setting: a 16-bit number, at least 1. -/
def portOf (s : List UInt8) : Except ParseFault Nat :=
  match Decimal.parseNatural 16 (Text.Utf8.toText s) with
  | .error e => .error ⟨"invalid port", some (e.messageOf s)⟩
  | .ok 0 => .error ⟨"invalid port", some "outside range"⟩
  | .ok p => .ok p

/-- Reads a connection string under the environment's settings. -/
def Connection.parse (files : Host.Tree) (env : List (String × String)) (conn : String) :
    Except ParseFault Connection := do
  let given ←
    if conn.isEmpty then pure []
    else if isUrlForm conn then
      (urlSettings conn).mapError fun e => ⟨"failed to parse as URL", some e⟩
    else
      ((keyValues (conn.length + 1) conn.toList []).map fun kvs =>
        kvs.map fun (k, v) => textSetting k v).mapError fun e =>
        ⟨"failed to parse as keyword/value", some e⟩
  let settings := defaultSettings ++ environmentSettings env ++ given
  let setting := settingOf settings
  if hasSetting settings "service" then
    let file := setting "servicefile"
    match Host.read files file with
    | .ok .blank => throw ⟨"failed to read service", some ("unable to find service: " ++ setting "service")⟩
    | _ => throw ⟨"failed to read service", some ("failed to read service file: " ++ file)⟩
  if hasSetting settings "connect_timeout" then
    let timeout := settingOctets settings "connect_timeout"
    match Decimal.parseInteger 64 (Text.Utf8.toText timeout) with
    | .error e => throw ⟨"invalid connect_timeout", some (e.messageOf timeout)⟩
    | .ok t => if t < 0 then throw ⟨"invalid connect_timeout", some "negative timeout"⟩
  let hosts := (setting "host").splitOn ","
  let ports := Http.splitOctets 44 (settingOctets settings "port")
  let attempts ← (hosts.zipIdx).flatMapM fun (host, i) => do
    let port ← portOf ((ports[i]?).getD (ports.head?.getD []))
    if isSocketDirectory host then pure [⟨host, port, false⟩]
    else
      let order ← tlsChoices files setting
      pure (order.map fun tls => ⟨host, port, tls⟩)
  let attrs := setting "target_session_attrs"
  if !sessionAttributes.contains attrs then
    throw ⟨"unknown target_session_attrs value: " ++ attrs, none⟩
  for name in ["statement_cache_capacity", "description_cache_capacity"] do
    if hasSetting settings name then
      let value := settingOctets settings name
      match Decimal.parseInteger 32 (Text.Utf8.toText value) with
      | .error e => throw ⟨"cannot parse " ++ name, some (e.messageOf value)⟩
      | .ok _ => pure ()
  if hasSetting settings "default_query_exec_mode" &&
      !queryExecModes.contains (setting "default_query_exec_mode") then
    throw ⟨"invalid default_query_exec_mode", none⟩
  pure { user := setting "user", database := setting "database", attempts }

/-- Looks a host name up: the empty name is no host, and other names resolve as dialling
resolves them. -/
def lookupHost (host : String) : Except String (Option Net.Resolved) :=
  if host.isEmpty then .error "lookup : no such host" else Net.resolve host

/-- The address an attempt dials and why dialling it fails, or why its host does not look up. -/
def Attempt.failure (files : Host.Tree) (a : Attempt) : Except String (String × String) :=
  if isSocketDirectory a.host then
    let path := cleanPath (a.host ++ "/.s.PGSQL.") ++ toString a.port
    .ok (path, "dial unix " ++ path ++ ": connect: " ++ Host.socketRefusal files path)
  else
    match lookupHost a.host with
    | .error e => .error e
    | .ok r =>
      -- an IP literal looks up to itself as written; a name to the text of its address
      let found := if (Net.Ip.literal? a.host).isSome then a.host
        else ((r.map fun x => x.ip.text).getD a.host)
      let addr := Net.joinHostPort found (toString a.port)
      .ok (addr, Net.dialError addr)

/-- The details of a failure on several lines: each line after the first is indented under the
lead. -/
def joinDetails (lead details : String) : String :=
  if details.contains '\n' then lead ++ "\n\t" ++ details.replace "\n" "\n\t"
  else lead ++ " " ++ details

/-- The error of connecting with a read connection string: the hosts that did not look up,
then the attempts that were dialled, each on its line; when no host looked up, only the
lookups, as a resolving error. -/
def Connection.failure (files : Host.Tree) (c : Connection) : String :=
  let lead := "failed to connect to `user=" ++ c.user ++ " database=" ++ c.database ++ "`:"
  let outcomes := c.attempts.map fun a => (a, a.failure files)
  let lookups := outcomes.filterMap fun (_, o) =>
    match o with
    | .error e => some e
    | .ok _ => none
  let dials := outcomes.filterMap fun (a, o) =>
    match o with
    | .ok (addr, e) => some (addr ++ " (" ++ a.host ++ "): dial error: " ++ e)
    | .error _ => none
  let details :=
    if dials.isEmpty then "hostname resolving error: " ++ "\n".intercalate lookups
    else "\n".intercalate (lookups ++ dials)
  joinDetails lead details

/-- Connects to the database a connection string names, under the environment's settings: the
error of the attempt. -/
def connectError (files : Host.Tree) (env : List (String × String)) (conn : String) : String :=
  match Connection.parse files env conn with
  | .error f => f.message conn
  | .ok c => c.failure files

end CampusLedger.Database
