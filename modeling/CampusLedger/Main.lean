import CampusLedger.Cli.TokenCommand
import Std.Time.Format
/-!
# The token command

`token -account NAME [-ttl DURATION]` prints a bearer token for an account. This entry point
reads the arguments, the environment variables of the settings and the clock, names the token
with a random UUID, runs the command and writes what it wrote, exiting with its code.
-/

open CampusLedger

/-- The environment variables of the settings that are set. -/
def readEnvironment : IO Environment :=
  Settings.variableNames.filterMapM fun key => do
    pure ((← IO.getEnv key).map fun value => (key, value))

def readClock : IO Instant := do
  let t ← Std.Time.Timestamp.now
  pure ⟨t.toNanosecondsSinceUnixEpoch.val⟩

def main (args : List String) : IO UInt32 := do
  let env ← readEnvironment
  let now ← readClock
  let id := (Uuid.ofRandom (← IO.getRandomBytes 16).toList).toText
  let out := Cli.tokenCommand args env now id
  IO.print out.stdout
  IO.eprint out.stderr
  pure out.exitCode.toUInt32
