import CampusLedger.Text.Quoted
/-!
# IP literals and why they are refused

A URL host in brackets must be an IP address, and a refused one is reported with the reason.
The first dot, colon or percent sign of the text decides how it is read: a dot makes it an IPv4
address, a colon an IPv6 address, and a percent sign an IPv6 zone with the address missing. A
text with none of them is no address at all.

An IPv4 address is four decimal fields, each with a digit, none with a leading zero and none
above 255; an IPv4 address that is not the whole text, as in `1.2.3.4::`, is refused. An IPv6 address may end in a zone after its first percent sign, and the zone must
not be empty. Before it come groups of one to four hexadecimal digits separated by colons, with
at most one `::` standing for one or more zero groups, and an IPv4 address may take the place
of the last two groups. The groups must fill sixteen octets exactly.

A refusal names the text, why it was refused and, for some reasons, the rest of the text from
the field where reading stopped.
-/

namespace CampusLedger.Net

/-- Why an IP literal was refused, and the rest of the text from the field where reading
stopped, when the reason names it. -/
structure IpFault where
  reason : String
  rest : List UInt8 := []
  deriving Repr

/-- The message of a refused literal: the text quoted, the reason, and where reading stopped. -/
def IpFault.message (input : List UInt8) (f : IpFault) : String :=
  "ParseAddr(" ++ Text.quoteOctets input ++ "): " ++ f.reason ++
    (if f.rest.isEmpty then "" else " (at " ++ Text.quoteOctets f.rest ++ ")")

/-- An IP address: four octets, or eight 16-bit groups. -/
inductive Ip where
  | v4 (octets : List Nat)
  | v6 (groups : List Nat)
  deriving DecidableEq, Repr

def isDecimalOctet (b : UInt8) : Bool := 48 ≤ b && b ≤ 57

def isHexOctet (b : UInt8) : Bool :=
  isDecimalOctet b || (97 ≤ b && b ≤ 102) || (65 ≤ b && b ≤ 70)

def hexOctetValue (b : UInt8) : Nat :=
  if isDecimalOctet b then b.toNat - 48 else if b ≥ 97 then b.toNat - 87 else b.toNat - 55

/-- Reads the fields of an IPv4 address: the value and the digit count of the current field,
the fields before it, and the octet before the rest. -/
def ipv4Fields : List UInt8 → Nat → Nat → List Nat → Option UInt8 → Except IpFault (List Nat)
  | [], value, _, before, _ =>
    if before.length < 3 then .error { reason := "IPv4 address too short" }
    else .ok (before ++ [value])
  | b :: rest, value, digits, before, previous =>
    if isDecimalOctet b then
      if digits == 1 && value == 0 then .error { reason := "IPv4 field has octet with leading zero" }
      else
        let value := value * 10 + (b.toNat - 48)
        if value > 255 then .error { reason := "IPv4 field has value >255" }
        else ipv4Fields rest value (digits + 1) before (some b)
    else if b == 46 then
      if previous.isNone || rest.isEmpty || previous == some 46 then
        .error { reason := "IPv4 field must have at least one digit", rest := b :: rest }
      else if before.length == 3 then .error { reason := "IPv4 address too long" }
      else ipv4Fields rest 0 0 (before ++ [value]) (some b)
    else .error { reason := "unexpected character", rest := b :: rest }

def ipv4 (s : List UInt8) : Except IpFault (List Nat) := ipv4Fields s 0 0 [] none

/-- The two groups that an IPv4 address fills at the end of an IPv6 address. -/
def ipv4Groups : List Nat → List Nat
  | [a, b, c, d] => [a * 256 + b, c * 256 + d]
  | _ => []

/-- Where reading the groups of an IPv6 address ended: the groups read, how many groups stand
before the `::`, if there is one, and the text left over. -/
structure GroupsRead where
  groups : List Nat
  ellipsis : Option Nat
  rest : List UInt8

/-- Reads the groups of an IPv6 address while fewer than eight are read; `fuel` bounds the
rounds, each of which reads at least one group. -/
def ipv6Groups : Nat → List Nat → Option Nat → List UInt8 → Except IpFault GroupsRead
  | 0, groups, ellipsis, s => .ok { groups, ellipsis, rest := s }
  | fuel + 1, groups, ellipsis, s =>
    if groups.length ≥ 8 then .ok { groups, ellipsis, rest := s }
    else
      let digits := s.takeWhile isHexOctet
      let after := s.drop digits.length
      if digits.length > 4 then
        .error { reason := "each group must have 4 or less digits", rest := s }
      else if digits.isEmpty then
        .error { reason := "each colon-separated field must have at least one digit", rest := s }
      else if after.head? == some 46 then
        if ellipsis.isNone && groups.length != 6 then
          .error { reason := "embedded IPv4 address must replace the final 2 fields of the address",
                   rest := s }
        else if groups.length + 2 > 8 then
          .error { reason := "too many hex fields to fit an embedded IPv4 at the end of the address",
                   rest := s }
        else (ipv4 s).map fun o => { groups := groups ++ ipv4Groups o, ellipsis, rest := [] }
      else
        let groups := groups ++ [digits.foldl (fun n b => n * 16 + hexOctetValue b) 0]
        match after with
        | [] => .ok { groups, ellipsis, rest := [] }
        | [58] => .error { reason := "colon must be followed by more characters", rest := after }
        | 58 :: 58 :: more =>
          if ellipsis.isSome then
            .error { reason := "multiple :: in address", rest := 58 :: more }
          else if more.isEmpty then .ok { groups, ellipsis := some groups.length, rest := [] }
          else ipv6Groups fuel groups (some groups.length) more
        | 58 :: more => ipv6Groups fuel groups ellipsis more
        | _ => .error { reason := "unexpected character, want colon", rest := after }

def ipv6 (s : List UInt8) : Except IpFault (List Nat × List UInt8) := do
  let address := s.takeWhile (· != 37)
  let zone := s.drop (address.length + 1)
  if s.length != address.length && zone.isEmpty then
    throw { reason := "zone must be a non-empty string" }
  match address with
  | 58 :: 58 :: [] => pure (List.replicate 8 0, zone)
  | _ =>
    let (start, ellipsis) := match address with
      | 58 :: 58 :: more => (more, some 0)
      | _ => (address, none)
    let r ← ipv6Groups 9 [] ellipsis start
    if !r.rest.isEmpty then throw { reason := "trailing garbage after address", rest := r.rest }
    match r.ellipsis with
    | none =>
      if r.groups.length < 8 then throw { reason := "address string too short" }
      pure (r.groups, zone)
    | some e =>
      if r.groups.length ≥ 8 then
        throw { reason := "the :: must expand to at least one field of zeros" }
      pure (r.groups.take e ++ List.replicate (8 - r.groups.length) 0 ++ r.groups.drop e, zone)

/-- Reads an IP address and its zone, which only an IPv6 address may have; a refusal's message
is `IpFault.message s`. -/
def parseIp (s : List UInt8) : Except IpFault (Ip × List UInt8) :=
  match s.find? fun b => b == 46 || b == 58 || b == 37 with
  | some 46 => (ipv4 s).map fun o => (.v4 o, [])
  | some 58 => (ipv6 s).map fun (gs, zone) => (.v6 gs, zone)
  | some _ => .error { reason := "missing IPv6 address" }
  | none => .error { reason := "unable to parse IP" }

end CampusLedger.Net
