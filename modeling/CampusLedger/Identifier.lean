import CampusLedger.Failure
import CampusLedger.Text.Utf8
import CampusLedger.Decimal.Natural
import CampusLedger.Uuid
/-!
# Identifiers

Accounts are named by opaque texts, assets by positive 64-bit numbers, and transfers by UUIDs.
At the edges of the system each is read from outside input and refused, with an
`invalid_input` failure, when malformed.

An account identifier is read from octets. It is refused when empty, when longer than 128
octets, when not well-formed UTF-8, or when it holds a blank or control character, checked in
that order.

A transfer moves an amount of one asset from one holder to another. The bank issues each
executed transfer as a receipt under a fresh identifier; a receipt is settled when the bank
executed a transfer equal to it in every field.
-/

namespace CampusLedger

/-- An account: an opaque name. Only equality and order of names mean anything. -/
structure AccountId where
  name : String
  deriving DecidableEq, Repr, Inhabited, Hashable, Ord

instance : ToString AccountId := ⟨AccountId.name⟩

namespace AccountId

def maxLength : Nat := 128

def isZero (a : AccountId) : Bool := a.name.isEmpty

/-- Reads an account identifier from octets: non-empty, at most 128 octets, well-formed UTF-8,
and without blank or control characters. -/
def parse (bs : List UInt8) : Except Failure AccountId :=
  if bs.isEmpty then .error (.make .invalidInput "account id cannot be empty")
  else if bs.length > maxLength then .error (.make .invalidInput "account id too long")
  else if !Text.Utf8.valid bs then
    .error (.make .invalidInput "account id must be valid UTF-8")
  else
    let cs := Text.Utf8.decode bs
    if cs.any (fun c => Text.isBlank c || Text.isControl c) then
      .error (.make .invalidInput "account id contains whitespace or control characters")
    else .ok ⟨String.ofList cs⟩

def ofText (s : String) : Except Failure AccountId := parse s.toUTF8.toList

end AccountId

/-- An asset: a positive 64-bit number. -/
structure AssetId where
  id : Nat
  deriving DecidableEq, Repr, Inhabited, Hashable, Ord

namespace AssetId

/-- Reads an asset identifier from a decimal numeral: digits only, within 64 bits, not zero. -/
def ofText (s : String) : Except Failure AssetId :=
  match Decimal.readNatural 64 s with
  | .error _ => .error (.make .invalidInput "invalid asset id")
  | .ok 0 => .error (.make .invalidInput "asset id cannot be zero")
  | .ok n => .ok ⟨n⟩

def toText (a : AssetId) : String := toString a.id

end AssetId

abbrev TransferId := Uuid

namespace TransferId

/-- Reads a transfer identifier: not empty, a UUID, not the nil UUID. -/
def ofText (s : String) : Except Failure TransferId :=
  if s.isEmpty then .error (.make .invalidInput "transfer id cannot be empty")
  else
    match Uuid.ofText? s with
    | none => .error (.make .invalidInput "invalid transfer id")
    | some u =>
      if u.isNil then .error (.make .invalidInput "transfer id cannot be nil") else .ok u

end TransferId


/-- A movement of `amount` units of an asset between two holders. -/
structure Transfer where
  id : TransferId := Uuid.nil
  asset : AssetId := ⟨0⟩
  source : AccountId := ⟨""⟩
  target : AccountId := ⟨""⟩
  amount : Nat := 0
  deriving DecidableEq, Repr, Inhabited

end CampusLedger
