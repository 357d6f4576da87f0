import CampusLedger.Text.Quoted
import CampusLedger.Time.Instant
/-!
# JSON values

A JSON value as the wire carries it. Numbers keep the numeral they were written with, so that
64-bit words pass through exactly; objects keep their members in order, duplicates included.

Writing is compact. In strings the quote and the backslash take a backslash, the controls
backspace, form feed, newline, carriage return and tab take their letter escapes, other
controls take a four-digit escape, and so do the line and paragraph separators.
With `html` set, the characters less-than, greater-than and ampersand take four-digit escapes
as well.

An instant is a value of its own, written as its RFC 3339 text. A document that holds an
instant whose year lies outside 0 to 9999 is not well formed, and writers that check refuse it
as a whole.
-/

namespace CampusLedger

inductive Json where
  | null
  | bool (b : Bool)
  /-- A number, by its numeral. -/
  | num (numeral : String)
  | str (s : String)
  | arr (items : List Json)
  | obj (members : List (String × Json))
  /-- An instant, written as its RFC 3339 text. -/
  | time (t : Instant)
  deriving Repr, Inhabited

namespace Json

def nat (n : Nat) : Json := .num (toString n)

def int (n : Int) : Json := .num (if n < 0 then "-" ++ toString n.natAbs else toString n)

def get? (v : Json) (key : String) : Option Json :=
  match v with
  | .obj ms => (ms.find? (·.1 == key)).map (·.2)
  | _ => none

def push (v : Json) (key : String) (x : Json) : Json :=
  match v with
  | .obj ms => .obj (ms ++ [(key, x)])
  | other => other

def members (v : Json) : List (String × Json) :=
  match v with
  | .obj ms => ms
  | _ => []

/-- The escape of one character inside a JSON string. -/
def escapeChar (html : Bool) (c : Char) : List Char :=
  let n := c.toNat
  if c == '"' then ['\\', '"']
  else if c == '\\' then ['\\', '\\']
  else if c == '\x08' then ['\\', 'b']
  else if c == '\x0c' then ['\\', 'f']
  else if c == '\n' then ['\\', 'n']
  else if c == '\r' then ['\\', 'r']
  else if c == '\t' then ['\\', 't']
  else if n < 0x20 then '\\' :: 'u' :: Text.hexDigits 4 n
  else if html && (c == '<' || c == '>' || c == '&') then '\\' :: 'u' :: Text.hexDigits 4 n
  else if n == 0x2028 || n == 0x2029 then '\\' :: 'u' :: Text.hexDigits 4 n
  else [c]

def quoteString (html : Bool) (s : String) : String :=
  String.ofList ('"' :: (s.toList.flatMap (escapeChar html) ++ ['"']))

mutual
def render (html : Bool) : Json → String
  | .null => "null"
  | .bool true => "true"
  | .bool false => "false"
  | .num n => n
  | .str s => quoteString html s
  | .arr items => "[" ++ renderItems html items ++ "]"
  | .obj ms => "\x7b" ++ renderMembers html ms ++ "\x7d"
  | .time t => quoteString html t.toText

def renderItems (html : Bool) : List Json → String
  | [] => ""
  | [x] => render html x
  | x :: xs => render html x ++ "," ++ renderItems html xs

def renderMembers (html : Bool) : List (String × Json) → String
  | [] => ""
  | [(k, x)] => quoteString html k ++ ":" ++ render html x
  | (k, x) :: ms => quoteString html k ++ ":" ++ render html x ++ "," ++ renderMembers html ms
end

mutual
/-- Whether a value holds an instant that cannot be written as RFC 3339 text. -/
def unwritable : Json → Bool
  | .arr items => unwritableItems items
  | .obj ms => unwritableMembers ms
  | .time t => !t.writable
  | _ => false

def unwritableItems : List Json → Bool
  | [] => false
  | x :: xs => unwritable x || unwritableItems xs

def unwritableMembers : List (String × Json) → Bool
  | [] => false
  | (_, x) :: ms => unwritable x || unwritableMembers ms
end

mutual
/-- The value as a reader of its text sees it: instants become their text. -/
def settle : Json → Json
  | .arr items => .arr (settleItems items)
  | .obj ms => .obj (settleMembers ms)
  | .time t => .str t.toText
  | v => v

def settleItems : List Json → List Json
  | [] => []
  | x :: xs => settle x :: settleItems xs

def settleMembers : List (String × Json) → List (String × Json)
  | [] => []
  | (k, x) :: ms => (k, settle x) :: settleMembers ms
end

/-- The compact text, without escaping of `<`, `>` and `&`. -/
def compact (v : Json) : String := render false v

/-- An object's members sorted by key, insertion sort keeping equal keys in order. -/
def sortMembers (ms : List (String × Json)) : List (String × Json) :=
  ms.foldr (fun m acc => insertMember m acc) []
where
  /-- Inserts a member before the first one whose key is not smaller. -/
  insertMember (m : String × Json) : List (String × Json) → List (String × Json)
    | [] => [m]
    | x :: xs => if decide (x.1 < m.1) then x :: insertMember m xs else m :: x :: xs

end Json

end CampusLedger
