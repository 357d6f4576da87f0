import CampusLedger.Time.Duration
import CampusLedger.Text.Quoted
/-!
# Command-line flags

A command declares flags that take a value: a text or a duration. Arguments are read in order
while they look like flags: `-name value`, `-name=value`, with one or two leading dashes. The
first argument that is not a flag ends the flags and is left over, a lone `--` is dropped as it
ends them, and a lone `-` is left over too. A flag given twice keeps its last value.

`-h` and `-help` ask for the usage text when no flag of that name is declared. An undeclared
flag, a flag without its value, a value that does not read and a malformed flag are refused
with a message, which is followed by the usage text.

The usage text names the program, then lists the flags in order of name, each with the kind
of value it takes and, on a line of its own, what it is for.
-/

namespace CampusLedger.Cli

inductive FlagKind where
  | text
  | duration
  deriving DecidableEq, Repr

/-- The word the usage text gives a kind of value. -/
def FlagKind.word : FlagKind → String
  | .text => "string"
  | .duration => "duration"

structure Flag where
  name : String
  kind : FlagKind
  usage : String

inductive FlagValue where
  | text (s : String)
  /-- A duration in nanoseconds. -/
  | duration (nanos : Int)
  deriving DecidableEq, Repr

/-- The reading of a flag's value, or why it does not read. -/
def Flag.read (f : Flag) (raw : String) : Except String FlagValue :=
  match f.kind with
  | .text => .ok (.text raw)
  | .duration =>
    match Duration.parse raw with
    | .ok d => .ok (.duration d)
    | .error _ => .error "parse error"

def usage (program : String) (flags : List Flag) : String :=
  let sorted := flags.mergeSort fun a b => decide (a.name ≤ b.name)
  "Usage of " ++ program ++ ":\n" ++
    String.join (sorted.map fun f => "  -" ++ f.name ++ " " ++ f.kind.word ++ "\n    \t" ++
      f.usage.replace "\n" "\n    \t" ++ "\n")

inductive Parsed where
  /-- The flags given, latest first, and the arguments left over. -/
  | given (values : List (String × FlagValue)) (rest : List String)
  /-- The usage text was asked for. -/
  | help
  /-- The arguments were refused with a message. -/
  | refused (message : String)
  deriving Repr

/-- Splits `name=value` at its first `=` after the first character. -/
def splitAssignment (name : String) : String × Option String :=
  match name.toList with
  | [] => ("", none)
  | c :: cs =>
    if cs.contains '=' then
      (String.ofList (c :: cs.takeWhile (· != '=')), some (String.ofList ((cs.dropWhile (· != '=')).drop 1)))
    else (name, none)

/-- Reads the arguments against the declared flags, adding to the values already read. -/
def parseFlags (flags : List Flag) : List (String × FlagValue) → List String → Parsed
  | acc, [] => .given acc []
  | acc, arg :: rest =>
    let cs := arg.toList
    if cs.length < 2 || cs.head? != some '-' then .given acc (arg :: rest)
    else if cs == ['-', '-'] then .given acc rest
    else
      let name := String.ofList (if (cs.drop 1).head? == some (Char.ofNat 45) then cs.drop 2 else cs.drop 1)
      match name.toList.head? with
      | none | some '-' | some '=' => .refused ("bad flag syntax: " ++ arg)
      | _ =>
        let (name, inline) := splitAssignment name
        match flags.find? (·.name == name) with
        | none =>
          if name == "help" || name == "h" then .help
          else .refused ("flag provided but not defined: -" ++ name)
        | some f =>
          let invalid (v e : String) : Parsed :=
            .refused ("invalid value " ++ Text.quote v ++ " for flag -" ++ name ++ ": " ++ e)
          match inline, rest with
          | some v, rest =>
            match f.read v with
            | .ok x => parseFlags flags ((name, x) :: acc) rest
            | .error e => invalid v e
          | none, v :: rest =>
            match f.read v with
            | .ok x => parseFlags flags ((name, x) :: acc) rest
            | .error e => invalid v e
          | none, [] => .refused ("flag needs an argument: -" ++ name)

/-- The last text given a flag, or the empty text. -/
def textOf (values : List (String × FlagValue)) (name : String) : String :=
  match values.find? (·.1 == name) with
  | some (_, .text s) => s
  | _ => ""

def durationOf (values : List (String × FlagValue)) (name : String) : Int :=
  match values.find? (·.1 == name) with
  | some (_, .duration d) => d
  | _ => 0

/-- What a program run leaves behind: its exit code and what it wrote to its two streams. -/
structure Outcome where
  exitCode : Nat
  stdout : String := ""
  stderr : String := ""
  deriving Repr

end CampusLedger.Cli
