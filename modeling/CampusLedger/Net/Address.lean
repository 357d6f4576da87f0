import CampusLedger.Net.IpLiteral
/-!
# Network addresses

A TCP address is written `host:port`, with an IPv6 host in brackets. Splitting one takes the
port after the last colon and refuses an address without a port, with a colon too many or
with a stray bracket.

A port is a decimal number with an optional sign, or the name of a well-known service. A
number too large to hold reads as the largest value it can, so that every number outside
0..65535 is refused as an invalid port; a name that is not known is refused as an unknown port.

A host is an IP literal, an IPv6 one optionally with a zone after `%`, `localhost` in any
case (the IPv4 loopback address), or the empty text, which means every local address to a
listener and the local system to a dialler. Other names do not resolve here. IPv4 literals are four decimal octets without leading zeros; IPv6 literals are
eight groups of up to four hexadecimal digits, with one `::` standing for a run of zero groups
and an optional IPv4 tail. An address is written back in its canonical form: IPv4 in dotted
decimal, IPv6 in lowercase with the first longest run of two or more zero groups written `::`.
-/

namespace CampusLedger.Net

/-- The text of an address error: the address, then why it is refused. -/
def addrError (addr why : String) : String := "address " ++ addr ++ ": " ++ why

/-- Splits `host:port`; the error is the text of the address error. -/
def splitHostPort (hostport : String) : Except String (String × String) :=
  let cs := hostport.toList
  let n := cs.length
  let fail (why : String) : Except String (String × String) := .error (addrError hostport why)
  match (List.range n).filter (fun i => cs[i]? == some ':') |>.getLast? with
  | none => fail "missing port in address"
  | some i =>
    let port := String.ofList (cs.drop (i + 1))
    let checked (j k : Nat) (host : List Char) : Except String (String × String) :=
      if (cs.drop j).contains '[' then fail "unexpected '[' in address"
      else if (cs.drop k).contains ']' then fail "unexpected ']' in address"
      else .ok (String.ofList host, port)
    if cs.head? == some '[' then
      match (List.range n).find? (fun p => cs[p]? == some ']') with
      | none => fail "missing ']' in address"
      | some close =>
        if close + 1 == n then fail "missing port in address"
        else if close + 1 == i then checked 1 (close + 1) ((cs.take close).drop 1)
        else if cs[close + 1]? == some ':' then fail "too many colons in address"
        else fail "missing port in address"
    else
      let host := cs.take i
      if host.contains ':' then fail "too many colons in address" else checked 0 0 host

/-- Joins a host and a port, bracketing a host that has a colon. -/
def joinHostPort (host port : String) : String :=
  if host.contains ':' then "[" ++ host ++ "]:" ++ port else host ++ ":" ++ port

def decimalValue (ds : List Char) : Nat := ds.foldl (fun n c => n * 10 + (c.toNat - 48)) 0

/-- The number a port text stands for, or none when it is a name. Digits after an optional
sign are read; a magnitude of 2^30 or more reads as 2^30 - 1, or as -2^30 with a minus sign. -/
def portNumber? (service : String) : Option Int :=
  if service.isEmpty then some 0
  else
    let cs := service.toList
    let (neg, ds) := match cs with
      | '-' :: ds => (true, ds)
      | '+' :: ds => (false, ds)
      | ds => (false, ds)
    if !ds.all Char.isDigit then none
    else
      let n := decimalValue ds
      let cutoff := Nat.pow 2 30
      let m : Nat := if !neg && n ≥ cutoff then cutoff - 1 else if neg && n > cutoff then cutoff else n
      some (if neg then -(m : Int) else m)

def tcpServices : List (String × Nat) :=
  [("ftp", 21), ("ftps", 990), ("gopher", 70), ("http", 80), ("https", 443), ("imap2", 143),
   ("imap3", 220), ("imaps", 993), ("pop3", 110), ("pop3s", 995), ("smtp", 25),
   ("submissions", 465), ("ssh", 22), ("telnet", 23)]

/-- The TCP port a port text names; the error is the text of the refusal. -/
def lookupPort (service : String) : Except String Nat :=
  let number : Except String Int := match portNumber? service with
    | some p => .ok p
    | none =>
      match tcpServices.find? (·.1 == service.map Char.toLower) with
      | some (_, p) => .ok (p : Int)
      | none => .error ("lookup tcp/" ++ service ++ ": unknown port")
  match number with
  | .error e => .error e
  | .ok p => if p < 0 || p > 65535 then .error (addrError service "invalid port") else .ok p.toNat

def Ip.parse? (s : String) : Option Ip :=
  match parseIp s.toUTF8.toList with
  | .ok (ip, []) => some ip
  | _ => none

/-- Lowercase hexadecimal without leading zeros. -/
def hexText (n : Nat) : String :=
  if n == 0 then "0"
  else
    let digits := (List.range 4).reverse.map fun k => Text.hexDigit (n / Nat.pow 16 k % 16)
    String.ofList (digits.dropWhile (· == '0'))

/-- The first longest run of two or more zero groups: its start and length. -/
def zeroRun (gs : List Nat) : Option (Nat × Nat) :=
  (List.range gs.length).foldl (fun best i =>
    let len := ((gs.drop i).takeWhile (· == 0)).length
    match best with
    | some (_, l) => if len ≥ 2 && len > l then some (i, len) else best
    | none => if len ≥ 2 then some (i, len) else none) none

/-- The canonical text of an address. An IPv6 address that maps an IPv4 one is written as the
IPv4 address. -/
def Ip.text : Ip → String
  | .v4 o => ".".intercalate (o.map toString)
  | .v6 gs =>
    match gs with
    | [0, 0, 0, 0, 0, 65535, g, h] =>
      ".".intercalate ([g / 256, g % 256, h / 256, h % 256].map toString)
    | _ =>
      match zeroRun gs with
      | none => ":".intercalate (gs.map hexText)
      | some (i, l) =>
        ":".intercalate ((gs.take i).map hexText) ++ "::" ++
          ":".intercalate ((gs.drop (i + l)).map hexText)

/-- An address a host resolves to: an IP, and the zone an IPv6 literal was written with. -/
structure Resolved where
  ip : Ip
  zone : String := ""
  deriving DecidableEq, Repr

def Ip.literal? (s : String) : Option Resolved :=
  match parseIp s.toUTF8.toList with
  | .ok (ip, zone) => some ⟨ip, Text.Utf8.toText zone⟩
  | .error _ => none

/-- Whether a host names the local host in the hosts table: `localhost`, in any case. -/
def isLocalhostName (host : String) : Bool := host.toLower == "localhost"

/-- The address a host resolves to; none for the empty host. An IP literal resolves to itself
with its zone, `localhost` to the IPv4 loopback address, and other names do not resolve. -/
def resolve (host : String) : Except String (Option Resolved) :=
  if host.isEmpty then .ok none
  else
    match Ip.literal? host with
    | some r => .ok (some r)
    | none =>
      if isLocalhostName host then .ok (some ⟨.v4 [127, 0, 0, 1], ""⟩)
      else .error ("lookup " ++ host ++ ": no such host")

/-- The text of a resolved address and port: the address, its zone after `%`, and the port. -/
def endpointText (r : Option Resolved) (port : Nat) : String :=
  let host := match r with
    | some a => a.ip.text ++ (if a.zone.isEmpty then "" else "%" ++ a.zone)
    | none => ""
  joinHostPort host (toString port)

end CampusLedger.Net
