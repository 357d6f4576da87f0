import CampusLedger.Text.Quoted
/-!
# UUIDs

A UUID is sixteen octets, written as 32 lowercase hexadecimal digits in groups of 8, 4, 4, 4
and 12. Reading accepts four forms, told apart by their length in octets: the grouped form
(36), the grouped form after a case-insensitive `urn:uuid:` prefix (45), the grouped form
after any one octet and before any one octet (38), and the 32 digits alone (32). Digits may be
of either case.

UUIDs that the library issues are numbered: the k-th is version 4, variant 10, and carries k in
its last 48 bits, so that runs are reproducible.
-/

namespace CampusLedger

structure Uuid where
  octets : List UInt8
  deriving DecidableEq, Repr, Inhabited

namespace Uuid

def nil : Uuid := ⟨List.replicate 16 0⟩

/-- The value of a hexadecimal digit octet, of either case. -/
def hexValue? (b : UInt8) : Option Nat :=
  if 48 ≤ b && b ≤ 57 then some (b.toNat - 48)
  else if 97 ≤ b && b ≤ 102 then some (b.toNat - 87)
  else if 65 ≤ b && b ≤ 70 then some (b.toNat - 55)
  else none

def pairValue? (hi lo : UInt8) : Option UInt8 := do
  let h ← hexValue? hi
  let l ← hexValue? lo
  pure (UInt8.ofNat (h * 16 + l))

def pairs? : List UInt8 → Option (List UInt8)
  | [] => some []
  | [_] => none
  | a :: b :: rest => do
    let v ← pairValue? a b
    let vs ← pairs? rest
    pure (v :: vs)

/-- The sixteen octets of the grouped form: dashes at offsets 8, 13, 18 and 23 and digit
pairs elsewhere. -/
def grouped? (bs : List UInt8) : Option Uuid :=
  let dash : UInt8 := 45
  if bs[8]? == some dash && bs[13]? == some dash && bs[18]? == some dash &&
      bs[23]? == some dash then do
    let a ← pairs? (bs.take 8)
    let b ← pairs? ((bs.drop 9).take 4)
    let c ← pairs? ((bs.drop 14).take 4)
    let d ← pairs? ((bs.drop 19).take 4)
    let e ← pairs? ((bs.drop 24).take 12)
    pure ⟨a ++ b ++ c ++ d ++ e⟩
  else none

def lowerOctets (bs : List UInt8) : List UInt8 :=
  bs.map fun b => if 65 ≤ b && b ≤ 90 then b + 32 else b

/-- Reads a UUID from octets in any of the four accepted forms; a refusal names the length
when it fits no form, the prefix when it is not `urn:uuid:`, and the format otherwise. -/
def read (bs : List UInt8) : Except String Uuid :=
  let format (u : Option Uuid) : Except String Uuid :=
    match u with
    | some u => .ok u
    | none => .error "invalid UUID format"
  match bs.length with
  | 36 => format (grouped? bs)
  | 45 =>
    if lowerOctets (bs.take 9) == "urn:uuid:".toUTF8.toList then format (grouped? (bs.drop 9))
    else .error ("invalid urn prefix: " ++ Text.quoteOctets (bs.take 9))
  | 38 => format (grouped? (bs.drop 1))
  | 32 => format ((pairs? bs).map Uuid.mk)
  | n => .error ("invalid UUID length: " ++ toString n)

/-- Reads a UUID from octets in any of the four accepted forms. -/
def parse? (bs : List UInt8) : Option Uuid := (read bs).toOption

def ofText? (s : String) : Option Uuid := parse? s.toUTF8.toList

/-- The canonical text: lowercase digits in groups of 8, 4, 4, 4 and 12. -/
def toText (u : Uuid) : String :=
  let digits (bs : List UInt8) : List Char :=
    bs.flatMap fun b => Text.hexDigits 2 b.toNat
  String.ofList (digits (u.octets.take 4) ++ ['-'] ++ digits ((u.octets.drop 4).take 2) ++
    ['-'] ++ digits ((u.octets.drop 6).take 2) ++ ['-'] ++ digits ((u.octets.drop 8).take 2) ++
    ['-'] ++ digits (u.octets.drop 10))

def isNil (u : Uuid) : Bool := u.octets.all (· == 0)

/-- The k-th issued UUID: version 4, variant 10, k in the last 48 bits. -/
def numbered (k : Nat) : Uuid :=
  ⟨[0, 0, 0, 0, 0, 0, 0x40, 0, 0x80, 0] ++
    (List.range 6).reverse.map fun i => UInt8.ofNat (k / Nat.pow 256 i % 256)⟩

/-- The version-4 UUID of sixteen random octets: the version and variant bits are set, the
rest kept. -/
def ofRandom (bs : List UInt8) : Uuid :=
  let bs := (bs ++ List.replicate 16 0).take 16
  ⟨bs.zipIdx.map fun (b, i) =>
    if i == 6 then (b &&& 0x0f) ||| 0x40 else if i == 8 then (b &&& 0x3f) ||| 0x80 else b⟩

end Uuid

end CampusLedger
