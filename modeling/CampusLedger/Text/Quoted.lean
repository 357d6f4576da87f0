import CampusLedger.Text.Printable
import CampusLedger.Text.Utf8
/-!
# Printable characters and quoted text

A quoted text is written between double quotes. A printable character stands for itself. The
quote and the backslash take a backslash. The seven usual control characters take their letter
escapes. Any other character takes a hexadecimal escape: `\xHH` below U+0080, `\uHHHH` within
the first plane, and `\UHHHHHHHH` beyond it.

Octets are quoted the same way character by character, except that an octet that starts no
well-formed character is written `\xHH`.

Error messages and text log lines quote values this way.

The messages about times and durations quote more plainly: every octet outside printable ASCII
is written `\xHH`, and only the quote and the backslash take a backslash.
-/

namespace CampusLedger.Text

/-- Printable: letters, marks, numbers, punctuation, symbols and the ASCII space. -/
def isPrintable (c : Char) : Bool := isPrintableCode c.toNat

def hexDigit (n : Nat) : Char :=
  if n < 10 then Char.ofNat (48 + n) else Char.ofNat (87 + n)

/-- The last `width` lowercase hexadecimal digits of `n`. -/
def hexDigits (width n : Nat) : List Char :=
  (List.range width).reverse.map fun k => hexDigit (n / Nat.pow 16 k % 16)

def escapeChar (c : Char) : List Char :=
  if c == '"' || c == '\\' then ['\\', c]
  else if isPrintable c then [c]
  else if c == '\x07' then ['\\', 'a']
  else if c == '\x08' then ['\\', 'b']
  else if c == '\x0c' then ['\\', 'f']
  else if c == '\n' then ['\\', 'n']
  else if c == '\r' then ['\\', 'r']
  else if c == '\t' then ['\\', 't']
  else if c == '\x0b' then ['\\', 'v']
  else if c.toNat < 0x80 then '\\' :: 'x' :: hexDigits 2 c.toNat
  else if c.toNat < 0x10000 then '\\' :: 'u' :: hexDigits 4 c.toNat
  else '\\' :: 'U' :: hexDigits 8 c.toNat

/-- The text between double quotes, each character escaped by `escapeChar`. -/
def quote (s : String) : String :=
  String.ofList ('"' :: (s.toList.flatMap escapeChar ++ ['"']))

/-- The escapes of octets, character by character, with `\xHH` for each octet that starts no
well-formed character. -/
def escapeOctets : List UInt8 → List Char
  | [] => []
  | a :: rest =>
    if Utf8.width (a :: rest) = 0 then ('\\' :: 'x' :: hexDigits 2 a.toNat) ++ escapeOctets rest
    else escapeChar (Utf8.step a rest).1 ++ escapeOctets (Utf8.step a rest).2
termination_by bs => bs.length
decreasing_by
  all_goals
    have := Utf8.step_rest_length a rest
    simp only [List.length_cons]
    omega

def quoteOctets (bs : List UInt8) : String :=
  String.ofList ('"' :: (escapeOctets bs ++ ['"']))

/-- Octets between double quotes with every octet below the space or beyond ASCII written
`\xHH`, and a backslash before the quote and the backslash. -/
def quoteAscii (bs : List UInt8) : String :=
  let body := bs.flatMap fun b =>
    if b < 0x20 || b ≥ 0x80 then ['\\', 'x'] ++ hexDigits 2 b.toNat
    else if b == 34 || b == 92 then ['\\', Char.ofNat b.toNat]
    else [Char.ofNat b.toNat]
  String.ofList ('"' :: body ++ ['"'])

end CampusLedger.Text
