import CampusLedger.Json.Parse
import CampusLedger.Text.Quoted
/-!
# The syntax of JSON text

A JSON text is checked one octet at a time by a machine that knows what may come next: a
value, a key, what follows a value, or the rest of a string, number or literal word. Each
octet either moves the machine on or is refused, and a refusal names the octet and what the
machine was reading when it came. The first refused octet decides the fault, wherever it is.

When the octets run out, one blank is fed to close a number still open; a text that is then
not complete ends too early. Containers nest at most 10000 deep.

A refusal reads `invalid character 'c' context`, with the octet quoted as the one character of
its own value between single quotes.
-/

namespace CampusLedger.Json

/-- A container being read, innermost first on the machine's stack. -/
inductive Frame where
  /-- An object, before the colon of a member. -/
  | objectKey
  /-- An object, after the colon of a member. -/
  | objectValue
  | arrayValue
  deriving DecidableEq, Repr

inductive Mode where
  /-- A value, or the end of an empty array. -/
  | valueOrClose
  | value
  /-- A member's key, or the end of an empty object. -/
  | keyOrClose
  | key
  /-- What follows a value. -/
  | afterValue
  /-- Blanks after the whole text. -/
  | afterText
  /-- The characters of a string. -/
  | string
  /-- The character after a backslash in a string. -/
  | escape
  /-- The hexadecimal digits of a `\u` escape, with how many are already read. -/
  | unicode (seen : Nat)
  /-- A number after its minus sign. -/
  | minus
  /-- A number whose integer part is a zero. -/
  | zero
  /-- A number within its integer digits. -/
  | integer
  /-- A number just after its decimal point. -/
  | point
  /-- A number within its fraction digits. -/
  | fraction
  /-- A number just after its exponent mark. -/
  | exponent
  /-- A number after the sign of its exponent. -/
  | exponentSign
  /-- A number within its exponent digits. -/
  | exponentDigits
  /-- A literal word: its name and the letters still to come. -/
  | word (name : String) (rest : List Char)
  deriving DecidableEq, Repr

/-- The machine between two octets: what it reads next and the containers around it. -/
structure Scanner where
  mode : Mode := .value
  frames : List Frame := []
  deriving DecidableEq, Repr

inductive SyntaxFault where
  /-- An octet that cannot come where it does, and what was being read. -/
  | invalid (octet : UInt8) (context : String)
  /-- The text stops before its value is complete. -/
  | unexpectedEnd
  deriving DecidableEq, Repr

/-- The octet as the one character of its own value between single quotes; the single quote
itself takes a backslash and the double quote does not. -/
def quoteOctet (b : UInt8) : String :=
  if b == 39 then "'\\''"
  else if b == 34 then "'\"'"
  else String.ofList ('\'' :: Text.escapeChar (Char.ofNat b.toNat) ++ ['\''])

def SyntaxFault.message : SyntaxFault → String
  | .invalid b context => "invalid character " ++ quoteOctet b ++ " " ++ context
  | .unexpectedEnd => "unexpected end of JSON input"

def maxDepth : Nat := 10000

/-- Opens a container at octet `b`: its frame is pushed, unless the text nests too deep. -/
def openFrame (frames : List Frame) (b : UInt8) (frame : Frame) (mode : Mode) :
    Except SyntaxFault Scanner :=
  if frames.length + 1 ≤ maxDepth then .ok ⟨mode, frame :: frames⟩
  else .error (.invalid b "exceeded max depth")

/-- Reads the octet after a value: a blank, or what the innermost container takes next. After
the whole text only blanks may come. -/
def afterValue (frames : List Frame) (b : UInt8) : Except SyntaxFault Scanner :=
  match frames with
  | [] => if isSpace b then .ok ⟨.afterText, []⟩ else .error (.invalid b "after top-level value")
  | f :: rest =>
    if isSpace b then .ok ⟨.afterValue, frames⟩
    else
      match f with
      | .objectKey =>
        if b == 58 then .ok ⟨.value, .objectValue :: rest⟩
        else .error (.invalid b "after object key")
      | .objectValue =>
        if b == 44 then .ok ⟨.key, .objectKey :: rest⟩
        else if b == 125 then .ok ⟨.afterValue, rest⟩
        else .error (.invalid b "after object key:value pair")
      | .arrayValue =>
        if b == 44 then .ok ⟨.value, frames⟩
        else if b == 93 then .ok ⟨.afterValue, rest⟩
        else .error (.invalid b "after array element")

/-- Reads the first octet of a value, after any blanks. -/
def beginValue (frames : List Frame) (b : UInt8) : Except SyntaxFault Scanner :=
  if isSpace b then .ok ⟨.value, frames⟩
  else if b == 123 then openFrame frames b .objectKey .keyOrClose
  else if b == 91 then openFrame frames b .arrayValue .valueOrClose
  else if b == 34 then .ok ⟨.string, frames⟩
  else if b == 45 then .ok ⟨.minus, frames⟩
  else if b == 48 then .ok ⟨.zero, frames⟩
  else if b == 116 then .ok ⟨.word "true" ['r', 'u', 'e'], frames⟩
  else if b == 102 then .ok ⟨.word "false" ['a', 'l', 's', 'e'], frames⟩
  else if b == 110 then .ok ⟨.word "null" ['u', 'l', 'l'], frames⟩
  else if 49 ≤ b && b ≤ 57 then .ok ⟨.integer, frames⟩
  else .error (.invalid b "looking for beginning of value")

/-- Reads the octet after a number's integer part: a decimal point, an exponent mark, or what
follows a value. -/
def afterInteger (frames : List Frame) (b : UInt8) : Except SyntaxFault Scanner :=
  if b == 46 then .ok ⟨.point, frames⟩
  else if b == 101 || b == 69 then .ok ⟨.exponent, frames⟩
  else afterValue frames b

def exponentDigit (frames : List Frame) (b : UInt8) : Except SyntaxFault Scanner :=
  if isDigit b then .ok ⟨.exponentDigits, frames⟩
  else .error (.invalid b "in exponent of numeric literal")

def isHexDigit (b : UInt8) : Bool :=
  isDigit b || (97 ≤ b && b ≤ 102) || (65 ≤ b && b ≤ 70)

/-- Whether an octet may follow a backslash in a string. -/
def isEscapeLetter (b : UInt8) : Bool :=
  [98, 102, 110, 114, 116, 92, 47, 34].contains b

def Scanner.step (s : Scanner) (b : UInt8) : Except SyntaxFault Scanner :=
  let frames := s.frames
  match s.mode with
  | .valueOrClose =>
    if isSpace b then .ok s
    else if b == 93 then afterValue frames b
    else beginValue frames b
  | .value => beginValue frames b
  | .keyOrClose =>
    if isSpace b then .ok s
    else if b == 125 then afterValue (.objectValue :: frames.drop 1) b
    else if b == 34 then .ok ⟨.string, frames⟩
    else .error (.invalid b "looking for beginning of object key string")
  | .key =>
    if isSpace b then .ok s
    else if b == 34 then .ok ⟨.string, frames⟩
    else .error (.invalid b "looking for beginning of object key string")
  | .afterValue => afterValue frames b
  | .afterText =>
    if isSpace b then .ok s else .error (.invalid b "after top-level value")
  | .string =>
    if b == 34 then .ok ⟨.afterValue, frames⟩
    else if b == 92 then .ok ⟨.escape, frames⟩
    else if b < 32 then .error (.invalid b "in string literal")
    else .ok s
  | .escape =>
    if isEscapeLetter b then .ok ⟨.string, frames⟩
    else if b == 117 then .ok ⟨.unicode 0, frames⟩
    else .error (.invalid b "in string escape code")
  | .unicode seen =>
    if !isHexDigit b then .error (.invalid b "in \\u hexadecimal character escape")
    else if seen + 1 == 4 then .ok ⟨.string, frames⟩
    else .ok ⟨.unicode (seen + 1), frames⟩
  | .minus =>
    if b == 48 then .ok ⟨.zero, frames⟩
    else if 49 ≤ b && b ≤ 57 then .ok ⟨.integer, frames⟩
    else .error (.invalid b "in numeric literal")
  | .zero => afterInteger frames b
  | .integer => if isDigit b then .ok s else afterInteger frames b
  | .point =>
    if isDigit b then .ok ⟨.fraction, frames⟩
    else .error (.invalid b "after decimal point in numeric literal")
  | .fraction =>
    if isDigit b then .ok s
    else if b == 101 || b == 69 then .ok ⟨.exponent, frames⟩
    else afterValue frames b
  | .exponent =>
    if b == 43 || b == 45 then .ok ⟨.exponentSign, frames⟩ else exponentDigit frames b
  | .exponentSign => exponentDigit frames b
  | .exponentDigits => if isDigit b then .ok s else afterValue frames b
  | .word name rest =>
    match rest with
    | [] => afterValue frames b
    | c :: more =>
      if b.toNat == c.toNat then
        .ok ⟨if more.isEmpty then .afterValue else .word name more, frames⟩
      else
        .error (.invalid b ("in literal " ++ name ++ " (expecting " ++
          quoteOctet c.toNat.toUInt8 ++ ")"))

/-- Ends the text: a blank closes a number still open, and a text whose value is then not
complete ends too early. -/
def Scanner.finish (s : Scanner) : Except SyntaxFault Unit :=
  if s.mode == .afterText then .ok ()
  else
    match s.step 32 with
    | .error e => .error e
    | .ok s' => if s'.mode == .afterText then .ok () else .error .unexpectedEnd

/-- Checks that octets are one JSON text: the first fault, if any. -/
def checkSyntax (bs : List UInt8) : Except SyntaxFault Unit := do
  let s ← bs.foldlM Scanner.step {}
  s.finish

end CampusLedger.Json
