import CampusLedger.Json.Value
/-!
# Reading members of JSON objects

Lenient readers for the members of an object: a missing member or one of another kind reads
as the empty text, zero, false or the empty list.
-/

namespace CampusLedger.Json

def asInt? : Json → Option Int
  | .num n =>
    match n.toList with
    | '-' :: ds =>
      if !ds.isEmpty && ds.all Char.isDigit then
        some (-(ds.foldl (fun acc c => acc * 10 + (c.toNat - 48)) 0 : Nat))
      else none
    | ds =>
      if !ds.isEmpty && ds.all Char.isDigit then
        some (ds.foldl (fun acc c => acc * 10 + (c.toNat - 48)) 0 : Nat)
      else none
  | _ => none

def textAt (v : Json) (k : String) : String :=
  match v.get? k with
  | some (.str s) => s
  | _ => ""

def intAt (v : Json) (k : String) : Int := ((v.get? k).bind asInt?).getD 0

def natAt (v : Json) (k : String) : Nat := (v.intAt k).toNat

def boolAt (v : Json) (k : String) : Bool :=
  match v.get? k with
  | some (.bool b) => b
  | _ => false

def listAt (v : Json) (k : String) : List Json :=
  match v.get? k with
  | some (.arr xs) => xs
  | _ => []

def has (v : Json) (k : String) : Bool :=
  match v.get? k with
  | some .null | none => false
  | _ => true

end CampusLedger.Json
