import CampusLedger.Json.Parse
import CampusLedger.Decimal.Shortest
/-!
# Generic JSON values

A JSON value read without a schema: every number becomes the double nearest to its numeral, and
every object a map from keys to values, where a later member replaces an earlier one of the same
key. A numeral beyond the doubles' range makes the value unreadable; one below it reads as zero.

The generic form writes each number as the JSON layout of its double and lists each object's
keys in order, once. Two generic values are the same when they have the same shape, the same
texts and keys, and equal numbers, so that zero and negative zero are the same.
-/

namespace CampusLedger.Json

/-- The digits and the decimal exponent of a numeral: its value is `digits * 10^exp`, negated
when the first component is set. -/
def numeralParts (numeral : String) : Bool × Nat × Int :=
  let cs := numeral.toList
  let (neg, cs) := match cs with
    | '-' :: rest => (true, rest)
    | rest => (false, rest)
  let intPart := cs.takeWhile Char.isDigit
  let afterInt := cs.dropWhile Char.isDigit
  let fracPart := match afterInt with
    | '.' :: rest => rest.takeWhile Char.isDigit
    | _ => []
  let afterFrac := match afterInt with
    | '.' :: rest => rest.dropWhile Char.isDigit
    | rest => rest
  let expValue : Int := match afterFrac with
    | c :: rest =>
      if c == 'e' || c == 'E' then
        let (eneg, ds) := match rest with
          | '-' :: ds => (true, ds)
          | '+' :: ds => (false, ds)
          | ds => (false, ds)
        let v : Int := ds.foldl (fun n d => n * 10 + (d.toNat - 48 : Nat)) 0
        if eneg then -v else v
      else 0
    | [] => 0
  let digits := (intPart ++ fracPart).foldl (fun n d => n * 10 + (d.toNat - 48)) 0
  (neg, digits, expValue - fracPart.length)

/-- The double nearest to a numeral; none when it lies beyond the doubles' range. -/
def numberValue? (numeral : String) : Option Float :=
  let (neg, digits, exp) := numeralParts numeral
  let signed (x : Float) : Float := if neg then -x else x
  if digits == 0 then some (signed 0)
  else
    let lead := exp + (toString digits).length - 1
    if lead > 310 then none
    else if lead < -400 then some (signed 0)
    else
      let x := if exp ≥ 0 then Float.ofScientific digits false exp.toNat
        else Float.ofScientific digits true (-exp).toNat
      if x.isInf then none else some (signed x)

/-- Keeps the last member of each key, in the order of the keys. -/
def lastOfEachKey (ms : List (String × Json)) : List (String × Json) :=
  (sortMembers ms).foldr (fun m acc =>
    match acc with
    | x :: _ => if x.1 == m.1 then acc else m :: acc
    | [] => [m]) []

mutual
/-- The generic form of a value; none when a number is beyond the doubles' range. -/
def generic? : Json → Option Json
  | .num n => (numberValue? n).map fun x => .num (Decimal.jsonText x)
  | .arr items => (genericItems? items).map .arr
  | .obj ms => (genericMembers? ms).map fun ms => .obj (lastOfEachKey ms)
  | v => some v

def genericItems? : List Json → Option (List Json)
  | [] => some []
  | v :: vs => do pure ((← generic? v) :: (← genericItems? vs))

def genericMembers? : List (String × Json) → Option (List (String × Json))
  | [] => some []
  | (k, v) :: ms => do pure ((k, ← generic? v) :: (← genericMembers? ms))
end

mutual
/-- The value with each object's keys in order, once, the last member of a key kept; numbers
keep their numerals. -/
def keyed : Json → Json
  | .arr items => .arr (keyedItems items)
  | .obj ms => .obj (lastOfEachKey (keyedMembers ms))
  | v => v

def keyedItems : List Json → List Json
  | [] => []
  | v :: vs => keyed v :: keyedItems vs

def keyedMembers : List (String × Json) → List (String × Json)
  | [] => []
  | (k, v) :: ms => (k, keyed v) :: keyedMembers ms
end

mutual
def sameGeneric : Json → Json → Bool
  | .null, .null => true
  | .bool a, .bool b => a == b
  | .num a, .num b => a == b || ((a == "0" || a == "-0") && (b == "0" || b == "-0"))
  | .str a, .str b => a == b
  | .arr a, .arr b => sameItems a b
  | .obj a, .obj b => sameMembers a b
  | _, _ => false

def sameItems : List Json → List Json → Bool
  | [], [] => true
  | a :: as, b :: bs => sameGeneric a b && sameItems as bs
  | _, _ => false

def sameMembers : List (String × Json) → List (String × Json) → Bool
  | [], [] => true
  | (k, a) :: as, (l, b) :: bs => k == l && sameGeneric a b && sameMembers as bs
  | _, _ => false
end

end CampusLedger.Json
