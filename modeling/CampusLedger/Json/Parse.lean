import CampusLedger.Json.Value
import CampusLedger.Text.Utf8
/-!
# Reading JSON

Reads one JSON value (RFC 8259) from the front of a run of octets and returns it with the
octets after it. Numbers must follow the grammar: no leading zeros, no bare point, no sign but
a leading minus. Strings may not hold raw control characters. Inside strings an octet that
starts no well-formed UTF-8 character reads as the replacement character, and so does an
escaped surrogate that is not the first half of an escaped pair.

Nesting is bounded by the input: every two steps of the reader consume an octet, so twice the
length in steps always suffices.
-/

namespace CampusLedger.Json

def isSpace (b : UInt8) : Bool := b == 32 || b == 9 || b == 10 || b == 13

def skipSpace (bs : List UInt8) : List UInt8 := bs.dropWhile isSpace

def isDigit (b : UInt8) : Bool := 48 ≤ b && b ≤ 57

def hex4? : List UInt8 → Option Nat
  | a :: b :: c :: d :: _ => do
    let va ← hexValue? a
    let vb ← hexValue? b
    let vc ← hexValue? c
    let vd ← hexValue? d
    pure (((va * 16 + vb) * 16 + vc) * 16 + vd)
  | _ => none
where
  /-- The value of one hexadecimal digit. -/
  hexValue? (b : UInt8) : Option Nat :=
    if 48 ≤ b && b ≤ 57 then some (b.toNat - 48)
    else if 97 ≤ b && b ≤ 102 then some (b.toNat - 87)
    else if 65 ≤ b && b ≤ 70 then some (b.toNat - 55)
    else none

/-- A `\uXXXX` escape at the front: its value and the octets after it. -/
def unicodeEscape? : List UInt8 → Option (Nat × List UInt8)
  | 92 :: 117 :: rest => (hex4? rest).map fun v => (v, rest.drop 4)
  | _ => none

/-- The character of an escape after `\u`: a pair of escaped surrogates joins into one
character; any other surrogate reads as the replacement character. -/
def surrogateOrChar (v : Nat) (rest : List UInt8) : Char × List UInt8 :=
  if 0xD800 ≤ v && v ≤ 0xDBFF then
    match unicodeEscape? rest with
    | some (w, rest') =>
      if 0xDC00 ≤ w && w ≤ 0xDFFF then
        (Char.ofNat (0x10000 + (v - 0xD800) * 0x400 + (w - 0xDC00)), rest')
      else (Text.Utf8.replacement, rest)
    | none => (Text.Utf8.replacement, rest)
  else if 0xDC00 ≤ v && v ≤ 0xDFFF then (Text.Utf8.replacement, rest)
  else (Char.ofNat v, rest)

/-- The characters of a string body up to its closing quote, and the octets after the quote. -/
def stringBody : Nat → List UInt8 → List Char → Option (String × List UInt8)
  | 0, _, _ => none
  | _ + 1, [], _ => none
  | fuel + 1, b :: rest, acc =>
    if b == 34 then some (String.ofList acc.reverse, rest)
    else if b == 92 then
      match rest with
      | 34 :: r => stringBody fuel r ('"' :: acc)
      | 92 :: r => stringBody fuel r ('\\' :: acc)
      | 47 :: r => stringBody fuel r ('/' :: acc)
      | 98 :: r => stringBody fuel r ('\x08' :: acc)
      | 102 :: r => stringBody fuel r ('\x0c' :: acc)
      | 110 :: r => stringBody fuel r ('\n' :: acc)
      | 114 :: r => stringBody fuel r ('\r' :: acc)
      | 116 :: r => stringBody fuel r ('\t' :: acc)
      | 117 :: r =>
        match hex4? r with
        | some v =>
          let (c, r') := surrogateOrChar v (r.drop 4)
          stringBody fuel r' (c :: acc)
        | none => none
      | _ => none
    else if b < 32 then none
    else
      let (c, r) := Text.Utf8.step b rest
      stringBody fuel r (c :: acc)

/-- A string body read with enough steps for its length. -/
def string? (bs : List UInt8) : Option (String × List UInt8) :=
  stringBody (bs.length + 1) bs []


def digits (bs : List UInt8) : List UInt8 × List UInt8 :=
  (bs.takeWhile isDigit, bs.dropWhile isDigit)

/-- A numeral at the front: `-? (0 | [1-9][0-9]*) (. [0-9]+)? ([eE] [+-]? [0-9]+)?`. -/
def numeral? (bs : List UInt8) : Option (List UInt8 × List UInt8) := do
  let (sign, r0) := match bs with
    | 45 :: r => ([(45 : UInt8)], r)
    | r => ([], r)
  let (intPart, r1) ← match r0 with
    | 48 :: r => some ([(48 : UInt8)], r)
    | b :: r =>
      if isDigit b then
        let (ds, r') := digits r
        some (b :: ds, r')
      else none
    | [] => none
  let (fracPart, r2) ← match r1 with
    | 46 :: r =>
      let (ds, r') := digits r
      if ds.isEmpty then none else some (46 :: ds, r')
    | r => some ([], r)
  let (expPart, r3) ← match r2 with
    | e :: r =>
      if e == 101 || e == 69 then
        let (s, r') := match r with
          | 43 :: r' => ([(43 : UInt8)], r')
          | 45 :: r' => ([(45 : UInt8)], r')
          | r' => ([], r')
        let (ds, r'') := digits r'
        if ds.isEmpty then none else some (e :: s ++ ds, r'')
      else some ([], e :: r)
    | [] => some ([], [])
  pure (sign ++ intPart ++ fracPart ++ expPart, r3)

def ascii (s : String) : List UInt8 := s.toUTF8.toList

mutual
/-- One value after optional blanks, and the octets after it. -/
def value : Nat → List UInt8 → Option (Json × List UInt8)
  | 0, _ => none
  | fuel + 1, bs =>
    match skipSpace bs with
    | [] => none
    | b :: rest =>
      if b == 123 then objectBody fuel (skipSpace rest) []
      else if b == 91 then arrayBody fuel (skipSpace rest) []
      else if b == 34 then (string? rest).map fun (s, r) => (.str s, r)
      else if b == 116 then
        if rest.take 3 == ascii "rue" then some (.bool true, rest.drop 3) else none
      else if b == 102 then
        if rest.take 4 == ascii "alse" then some (.bool false, rest.drop 4) else none
      else if b == 110 then
        if rest.take 3 == ascii "ull" then some (.null, rest.drop 3) else none
      else
        (numeral? (b :: rest)).map fun (n, r) => (.num (Text.Utf8.toText n), r)

def arrayBody : Nat → List UInt8 → List Json → Option (Json × List UInt8)
  | 0, _, _ => none
  | fuel + 1, bs, acc =>
    match acc, bs with
    | [], 93 :: r => some (.arr [], r)
    | _, _ =>
      match value fuel bs with
      | none => none
      | some (v, r) =>
        match skipSpace r with
        | 44 :: r' => arrayBody fuel r' (v :: acc)
        | 93 :: r' => some (.arr (v :: acc).reverse, r')
        | _ => none

def objectBody : Nat → List UInt8 → List (String × Json) → Option (Json × List UInt8)
  | 0, _, _ => none
  | fuel + 1, bs, acc =>
    match acc, skipSpace bs with
    | [], 125 :: r => some (.obj [], r)
    | _, 34 :: r =>
      match string? r with
      | none => none
      | some (k, r1) =>
        match skipSpace r1 with
        | 58 :: r2 =>
          match value fuel r2 with
          | none => none
          | some (v, r3) =>
            match skipSpace r3 with
            | 44 :: r4 => objectBody fuel r4 ((k, v) :: acc)
            | 125 :: r4 => some (.obj ((k, v) :: acc).reverse, r4)
            | _ => none
        | _ => none
    | _, _ => none
end

/-- The first value of the octets, and the octets after it. -/
def readPrefix? (bs : List UInt8) : Option (Json × List UInt8) :=
  value (2 * bs.length + 2) bs

/-- The octets as exactly one value, blanks around it allowed. -/
def parse? (bs : List UInt8) : Option Json :=
  match readPrefix? bs with
  | some (v, rest) => if (skipSpace rest).isEmpty then some v else none
  | none => none

def parseText? (s : String) : Option Json := parse? s.toUTF8.toList

end CampusLedger.Json
