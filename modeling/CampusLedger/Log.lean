import CampusLedger.Json.Value
import CampusLedger.Text.Quoted
/-!
# Structured log lines

A log record has a level, a message and attributes. A logger keeps the records at or above its
level and writes each as one line, either as a JSON object or as `key=value` text, after its
own fixed attributes (the service name). Lines carry no time here: the caller stamps them.

In text lines a value is written bare unless it is empty or holds a blank, a quote, an equals
sign, a control character or a character that is not printable; then it is quoted.
-/

namespace CampusLedger.Log

/-- Severity, from least to most severe. -/
inductive Level where
  | debug
  | info
  | warn
  | error
  deriving DecidableEq, Repr, Inhabited

def Level.rank : Level → Nat
  | .debug => 0
  | .info => 1
  | .warn => 2
  | .error => 3

def Level.name : Level → String
  | .debug => "DEBUG"
  | .info => "INFO"
  | .warn => "WARN"
  | .error => "ERROR"

def lowerAscii (s : String) : String :=
  s.map fun c => if 'A' ≤ c && c ≤ 'Z' then Char.ofNat (c.toNat + 32) else c

/-- A character in lower case as far as it matters for matching ASCII names: the ASCII
capitals, the capital I with a dot above, whose lower case is `i`, and the Kelvin sign, whose
lower case is `k`. Every other character has no lower case within ASCII. -/
def lowerForNames (c : Char) : Char :=
  if 'A' ≤ c && c ≤ 'Z' then Char.ofNat (c.toNat + 32)
  else if c.toNat == 0x130 then 'i'
  else if c.toNat == 0x212A then 'k'
  else c

/-- The threshold named by a setting: `debug`, `warn` or `warning`, `error`, and `info` for
anything else, compared after lowering each character's case. -/
def Level.ofSetting (s : String) : Level :=
  match s.map lowerForNames with
  | "debug" => .debug
  | "warn" | "warning" => .warn
  | "error" => .error
  | _ => .info

inductive Value where
  | text (s : String)
  | int (n : Int)
  deriving DecidableEq, Repr, Inhabited

structure Record where
  level : Level
  message : String
  attrs : List (String × Value) := []
  deriving Repr, Inhabited

inductive Format where
  | json
  | text
  deriving DecidableEq, Repr, Inhabited

/-- The format named by a setting: `text` in any case, JSON for anything else. -/
def Format.ofSetting (s : String) : Format :=
  if lowerAscii s == "text" then .text else .json

/-- A logger: threshold, format and the attributes written on every line. -/
structure Logger where
  threshold : Level := .info
  format : Format := .json
  fixed : List (String × Value) := [("service", .text "ccms")]
  deriving Repr, Inhabited

/-- Whether a text value must be quoted in a text line: it is empty, or it has a space, an
equals sign, a quote or a control character below 0x20, or a character beyond ASCII that is
blank, not printable, or the replacement character that stands for undecodable octets.
The delete character 0x7F passes unquoted. -/
def needsQuote (s : String) : Bool :=
  s.isEmpty || s.any fun c =>
    let n := c.toNat
    if n < 0x80 then c == ' ' || c == '=' || c == '"' || n < 0x20
    else n == 0xFFFD || Text.isBlank c || !Text.isPrintable c

def textAtom (s : String) : String := if needsQuote s then Text.quote s else s

def Value.textForm : Value → String
  | .text s => textAtom s
  | .int n => if n < 0 then "-" ++ toString n.natAbs else toString n

def Value.toJson : Value → Json
  | .text s => .str s
  | .int n => .int n

/-- The line of a record, or none below the threshold. JSON lines have their members sorted by
key. -/
def Logger.line (l : Logger) (r : Record) : Option String :=
  if r.level.rank < l.threshold.rank then none
  else
    let attrs := l.fixed ++ r.attrs
    match l.format with
    | .json =>
      let members := [("level", Json.str r.level.name), ("msg", .str r.message)] ++
        attrs.map fun (k, v) => (k, v.toJson)
      some (Json.obj (Json.sortMembers members)).compact
    | .text =>
      some (" ".intercalate (("level=" ++ r.level.name) :: ("msg=" ++ textAtom r.message) ::
        attrs.map fun (k, v) => textAtom k ++ "=" ++ v.textForm))

def Logger.ofSettings (level format : String) : Logger :=
  { threshold := Level.ofSetting level, format := Format.ofSetting format }

end CampusLedger.Log
