/-!
# URL-safe base64 without padding

Octets are written six bits at a time with the URL-safe alphabet (`-` and `_` for 62 and 63)
and no padding. Reading skips line breaks, refuses any other character outside the alphabet
(the padding sign included) and a final group of one character, and ignores the unused low bits
of a final partial group.
-/

namespace CampusLedger.Text.Base64

/-- The URL-safe alphabet. -/
def alphabet : Array Char :=
  "ABCDEFGHIJKLMNOPQRSTUVWXYZabcdefghijklmnopqrstuvwxyz0123456789-_".toList.toArray

def valueOf? (c : Char) : Option Nat :=
  if 'A' ≤ c && c ≤ 'Z' then some (c.toNat - 65)
  else if 'a' ≤ c && c ≤ 'z' then some (c.toNat - 71)
  else if '0' ≤ c && c ≤ '9' then some (c.toNat + 4)
  else if c == '-' then some 62
  else if c == '_' then some 63
  else none

def charOf (v : Nat) : Char := alphabet[v % 64]!

/-- The text of octets, three octets to four characters, the last group shortened. -/
def encode : List UInt8 → List Char
  | a :: b :: c :: rest =>
    let n := a.toNat * 65536 + b.toNat * 256 + c.toNat
    charOf (n / 262144) :: charOf (n / 4096 % 64) :: charOf (n / 64 % 64) :: charOf (n % 64) ::
      encode rest
  | [a, b] =>
    let n := a.toNat * 65536 + b.toNat * 256
    [charOf (n / 262144), charOf (n / 4096 % 64), charOf (n / 64 % 64)]
  | [a] =>
    let n := a.toNat * 65536
    [charOf (n / 262144), charOf (n / 4096 % 64)]
  | [] => []

def encodeText (bs : List UInt8) : String := String.ofList (encode bs)

def decodeValues : List Nat → Option (List UInt8)
  | a :: b :: c :: d :: rest => do
    let n := ((a * 64 + b) * 64 + c) * 64 + d
    let tail ← decodeValues rest
    pure (UInt8.ofNat (n / 65536) :: UInt8.ofNat (n / 256 % 256) :: UInt8.ofNat (n % 256) :: tail)
  | [a, b, c] =>
    let n := ((a * 64 + b) * 64 + c) * 64
    some [UInt8.ofNat (n / 65536), UInt8.ofNat (n / 256 % 256)]
  | [a, b] =>
    let n := (a * 64 + b) * 4096
    some [UInt8.ofNat (n / 65536)]
  | [_] => none
  | [] => some []

/-- The octets of a text, or none when it is not URL-safe base64 without padding. -/
def decode (s : String) : Option (List UInt8) := do
  let cs := s.toList.filter fun c => c != '\n' && c != '\r'
  let vs ← cs.mapM valueOf?
  decodeValues vs

end CampusLedger.Text.Base64
