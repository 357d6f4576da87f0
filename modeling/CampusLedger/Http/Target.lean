import CampusLedger.Text.Utf8
/-!
# Request targets

A request target is a path, then an optional query after the first `?`. Both are
percent-encoded octets: `%XX` stands for the octet with hexadecimal value `XX`, and in a query
`+` also stands for a space. A `%` without two hexadecimal digits after it makes the whole
component unreadable.

A router matches the decoded path only when the path was sent in the canonical escaping, the
one that escapes every octet but the ASCII letters and digits, `-_.~` and `$&+,/:;=@`. A path
sent in any other escaping is matched as sent, escapes and all, so that an escaped `/` never
splits a segment. A query is split at `&` into `key=value` pairs; a pair that holds a `;` or
does not decode is skipped, and a query of more than ten thousand pieces gives no pairs at all.

Main statement: an octet escaped and decoded comes back (`unescape_escapeOctet`).
-/

namespace CampusLedger.Http

def hexValue? (b : UInt8) : Option Nat :=
  if 48 ≤ b && b ≤ 57 then some (b.toNat - 48)
  else if 65 ≤ b && b ≤ 70 then some (b.toNat - 55)
  else if 97 ≤ b && b ≤ 102 then some (b.toNat - 87)
  else none

/-- The upper-case hexadecimal digit of a value below sixteen. -/
def hexDigit (n : Nat) : UInt8 := if n < 10 then (48 + n).toUInt8 else (55 + n).toUInt8

/-- Decodes percent escapes; `plusIsSpace` reads `+` as a space, as queries do. -/
def unescape (plusIsSpace : Bool) : List UInt8 → Option (List UInt8)
  | [] => some []
  | 37 :: a :: b :: rest =>
    match hexValue? a, hexValue? b with
    | some x, some y => (unescape plusIsSpace rest).map ((x * 16 + y).toUInt8 :: ·)
    | _, _ => none
  | 37 :: _ => none
  | b :: rest => (unescape plusIsSpace rest).map ((if plusIsSpace && b == 43 then 32 else b) :: ·)

/-- Whether an octet stays literal in the canonical escaping of a path. -/
def pathLiteral (b : UInt8) : Bool :=
  (97 ≤ b && b ≤ 122) || (65 ≤ b && b ≤ 90) || (48 ≤ b && b ≤ 57) ||
    [45, 95, 46, 126, 36, 38, 43, 44, 47, 58, 59, 61, 64].contains b

/-- The escape of one octet: `%` and two upper-case hexadecimal digits. -/
def escapeOctet (b : UInt8) : List UInt8 := [37, hexDigit (b.toNat / 16), hexDigit (b.toNat % 16)]

def escapePath (bs : List UInt8) : List UInt8 :=
  bs.flatMap fun b => if pathLiteral b then [b] else escapeOctet b

/-- The path a router matches: decoded when it was sent in the canonical escaping, else as
sent. -/
def routingPath (raw : List UInt8) : List UInt8 :=
  match unescape false raw with
  | some p => if escapePath p == raw then p else raw
  | none => raw

/-- A request target: the path and the query, both still escaped. -/
structure Target where
  path : List UInt8
  query : List UInt8
  deriving Repr, Inhabited

def Target.ofText (s : String) : Target :=
  let bs := s.toUTF8.toList
  { path := bs.takeWhile (· != 63), query := (bs.dropWhile (· != 63)).drop 1 }

def splitOctets (sep : UInt8) (bs : List UInt8) : List (List UInt8) :=
  bs.foldr (fun b acc =>
    if b == sep then [] :: acc
    else match acc with
      | piece :: rest => (b :: piece) :: rest
      | [] => [[b]]) [[]]

/-- The most pieces a query may be split into; a query with more reads as having none. -/
def maxQueryPieces : Nat := 10000

def queryPairs (query : List UInt8) : List (List UInt8 × List UInt8) :=
  if query.count 38 + 1 > maxQueryPieces then []
  else (splitOctets 38 query).filterMap fun part =>
    if part.isEmpty || part.contains 59 then none
    else
      match unescape true (part.takeWhile (· != 61)), unescape true ((part.dropWhile (· != 61)).drop 1) with
      | some k, some v => some (k, v)
      | _, _ => none

def queryValues (pairs : List (List UInt8 × List UInt8)) (key : String) : List (List UInt8) :=
  (pairs.filter (·.1 == key.toUTF8.toList)).map (·.2)

def queryValue (pairs : List (List UInt8 × List UInt8)) (key : String) : List UInt8 :=
  ((queryValues pairs key).head?).getD []

theorem hexValue_hexDigit (n : Nat) (h : n < 16) : hexValue? (hexDigit n) = some n := by
  have : n = 0 ∨ n = 1 ∨ n = 2 ∨ n = 3 ∨ n = 4 ∨ n = 5 ∨ n = 6 ∨ n = 7 ∨ n = 8 ∨ n = 9 ∨
      n = 10 ∨ n = 11 ∨ n = 12 ∨ n = 13 ∨ n = 14 ∨ n = 15 := by omega
  rcases this with h | h | h | h | h | h | h | h | h | h | h | h | h | h | h | h <;> subst h <;> decide

theorem unescape_escapeOctet (plusIsSpace : Bool) (b : UInt8) (rest : List UInt8) :
    unescape plusIsSpace (escapeOctet b ++ rest) = (unescape plusIsSpace rest).map (b :: ·) := by
  have hb := b.toNat_lt
  simp only [escapeOctet, List.cons_append, List.nil_append, unescape,
    hexValue_hexDigit (b.toNat / 16) (by omega), hexValue_hexDigit (b.toNat % 16) (by omega)]
  rw [show b.toNat / 16 * 16 + b.toNat % 16 = b.toNat by omega]
  simp

/-- The host of a `host:port` address: the text before the last colon, unbracketed for an
IPv6 literal; none when the address has no port or is malformed. -/
def hostOf? (addr : String) : Option String :=
  let cs := addr.toList
  let n := cs.length
  let colons := (List.range n).filter fun i => cs[i]? == some ':'
  match colons.getLast? with
  | none => none
  | some i =>
    let checkBrackets (j k : Nat) (host : List Char) : Option String :=
      if (cs.drop j).contains '[' || (cs.drop k).contains ']' then none
      else some (String.ofList host)
    if cs.head? == some '[' then
      match (List.range n).find? (fun p => cs[p]? == some ']') with
      | none => none
      | some close =>
        if close + 1 == i then checkBrackets 1 (close + 1) ((cs.take close).drop 1)
        else none
    else
      let host := cs.take i
      if host.contains ':' then none else checkBrackets 0 0 host

end CampusLedger.Http
