import CampusLedger.Text.Printable
import CampusLedger.Text.Utf8
/-!
# Distinct trimmed texts

Lists read from configuration are cleaned the same way: each text is trimmed of blanks at both
ends, empty texts are dropped, and of equal texts only the first is kept, in order. An absent
list stays absent and an empty list stays empty.

Octets read from a query are cleaned the same way without decoding them first: only
well-formed blank characters are trimmed, so octets that are not UTF-8 stay as they came.
-/

namespace CampusLedger.Text

/-- Trims each text, drops empty ones and keeps the first of equal ones, in order; `seen` holds
the texts already kept. -/
def distinctTrimmedFrom (seen : List String) : List String → List String
  | [] => []
  | s :: rest =>
    let t := trimBlanks s
    if t.isEmpty || seen.contains t then distinctTrimmedFrom seen rest
    else t :: distinctTrimmedFrom (t :: seen) rest

/-- Trims each text, drops empty ones and keeps the first of equal ones, in order. -/
def distinctTrimmed (xs : List String) : List String := distinctTrimmedFrom [] xs

/-- The cleaned list of an optional list: absent stays absent. -/
def distinctTrimmed? (xs : Option (List String)) : Option (List String) :=
  xs.map distinctTrimmed

/-- The octets after the well-formed blank characters at their front. -/
def dropBlankOctets : List UInt8 → List UInt8
  | [] => []
  | a :: rest =>
    let n := Utf8.width (a :: rest)
    if n != 0 && isBlank (Char.ofNat (Utf8.codePoint n (a :: rest))) then
      dropBlankOctets (rest.drop (n - 1))
    else a :: rest
termination_by bs => bs.length
decreasing_by
  simp only [List.length_cons, List.length_drop]
  omega

/-- The width of the well-formed character that ends the octets, or 0 when none does. -/
def lastWidth (bs : List UInt8) : Nat :=
  ((List.range 4).find? fun i =>
    i + 1 ≤ bs.length && Utf8.width (bs.drop (bs.length - (i + 1))) == i + 1).map (· + 1) |>.getD 0

/-- The octets before the well-formed blank characters at their end. -/
def dropBlankOctetsRight (fuel : Nat) (bs : List UInt8) : List UInt8 :=
  match fuel with
  | 0 => bs
  | fuel + 1 =>
    let n := lastWidth bs
    let tail := bs.drop (bs.length - n)
    if n != 0 && isBlank (Char.ofNat (Utf8.codePoint n tail)) then
      dropBlankOctetsRight fuel (bs.take (bs.length - n))
    else bs

/-- The octets without the well-formed blank characters at either end. -/
def trimBlankOctets (bs : List UInt8) : List UInt8 :=
  let front := dropBlankOctets bs
  dropBlankOctetsRight front.length front

/-- Trims each octet string, drops empty ones and keeps the first of equal ones, in order. -/
def distinctTrimmedOctets (xs : List (List UInt8)) : List (List UInt8) :=
  (xs.foldl (fun (seen, kept) x =>
    let t := trimBlankOctets x
    if t.isEmpty || seen.contains t then (seen, kept) else (t :: seen, kept ++ [t])) ([], [])).2

end CampusLedger.Text
