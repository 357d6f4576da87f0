import CampusLedger.Net.Address
/-!
# Dialling and listening

The process runs in a network of its own whose only interface, the loopback `lo` (number 1),
is down: it has no address at all, IPv4 or IPv6, and no route.

Dialling an address first splits it, then reads its port, then resolves its host; the first
step that fails gives the error. An address that gets through all three is still not reached:

* an IPv4 address, or an IPv6 one that maps an IPv4 address, has no route;
* an IPv6 multicast address is refused as unreachable;
* a link-local IPv6 address needs a zone that names an interface or a number;
* any other IPv6 address has no local address to send from.

A zone names an interface by its name or, failing that, by the number its leading digits spell.

Listening on the empty address listens on the HTTP port of every local address. With no route
at all, no IPv4 address is known not to be local, so every IPv4 address binds. An IPv6 address
binds only when unspecified: a stream cannot bind a multicast address, a link-local one first
needs a zone that names an existing interface, and no other address is assigned here.
-/

namespace CampusLedger.Net

def interfaceIndex? (name : String) : Option Nat := if name == "lo" then some 1 else none

/-- The largest number a zone's digits may spell; longer runs of digits stop there. -/
def scopeCap : Nat := 0xFFFFFF

/-- The number leading decimal digits spell, stopping at `scopeCap` once it is reached. -/
def leadingNumber : List Char → Nat → Nat
  | [], n => n
  | c :: cs, n =>
    if c.isDigit then
      let m := n * 10 + (c.toNat - 48)
      if m ≥ scopeCap then scopeCap else leadingNumber cs m
    else n

/-- The scope a zone names: the number of the interface of that name, else the number its
leading decimal digits spell, else 0. -/
def scopeOf (zone : String) : Nat :=
  match interfaceIndex? zone with
  | some i => i
  | none => leadingNumber zone.toList 0

def interfaceExists (index : Nat) : Bool := index == 1

/-- Whether an address is IPv4, or IPv6 mapping an IPv4 address: such addresses go over IPv4. -/
def Ip.overIPv4 : Ip → Bool
  | .v4 _ => true
  | .v6 gs => gs.take 6 == [0, 0, 0, 0, 0, 65535]

/-- Whether an IPv6 address is link-local unicast, in `fe80::/10`. -/
def Ip.isLinkLocal : Ip → Bool
  | .v4 _ => false
  | .v6 gs => (gs.headD 0) / 64 == 0xfe80 / 64

/-- Whether an IPv6 address is multicast, in `ff00::/8`. -/
def Ip.isMulticast : Ip → Bool
  | .v4 _ => false
  | .v6 gs => (gs.headD 0) / 256 == 0xff

/-- Whether an address is unspecified: all zeros, or IPv6 mapping the IPv4 one. -/
def Ip.isUnspecified : Ip → Bool
  | .v4 o => o == [0, 0, 0, 0]
  | .v6 gs => gs == List.replicate 8 0 || gs == [0, 0, 0, 0, 0, 65535, 0, 0]

def connectRefusal (r : Resolved) : String :=
  if r.ip.overIPv4 then "network is unreachable"
  else if r.ip.isMulticast then "network is unreachable"
  else if r.ip.isLinkLocal && scopeOf r.zone == 0 then "invalid argument"
  else "cannot assign requested address"

/-- Why binding a resolved address fails, or none when it binds. -/
def bindRefusal (r : Resolved) : Option String :=
  if r.ip.overIPv4 || r.ip.isUnspecified then none
  else if r.ip.isMulticast then some "invalid argument"
  else if r.ip.isLinkLocal then
    let scope := scopeOf r.zone
    if scope == 0 then some "invalid argument"
    else if !interfaceExists scope then some "no such device"
    else some "cannot assign requested address"
  else some "cannot assign requested address"

/-- Resolves `host:port` into an address and port, or gives why it does not resolve. -/
def resolveAddr (addr : String) : Except String (Option Resolved × Nat) := do
  let (host, port) ← splitHostPort addr
  let p ← lookupPort port
  let r ← resolve host
  pure (r, p)

/-- The error of dialling `addr` over TCP. The empty host dials the local system, over IPv4. -/
def dialError (addr : String) : String :=
  match resolveAddr addr with
  | .error e => "dial tcp: " ++ e
  | .ok (r, p) =>
    let why := match r with
      | some a => connectRefusal a
      | none => "network is unreachable"
    "dial tcp " ++ endpointText r p ++ ": connect: " ++ why

/-- The error of listening on `addr` over TCP, or none when the listener is bound. -/
def listenError (addr : String) : Option String :=
  match resolveAddr (if addr.isEmpty then ":http" else addr) with
  | .error e => some ("listen tcp: " ++ e)
  | .ok (none, _) => none
  | .ok (some r, p) =>
    (bindRefusal r).map fun why => "listen tcp " ++ endpointText (some r) p ++ ": bind: " ++ why

end CampusLedger.Net
