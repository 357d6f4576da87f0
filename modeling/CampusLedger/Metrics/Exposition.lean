import CampusLedger.Metrics.Registry
import CampusLedger.Decimal.Shortest
import CampusLedger.Json.Value
/-!
# The text exposition of metrics

The registry as lines of text, family by family in the order of `Registry.gather`: a `HELP`
line, a `TYPE` line, then one sample line per series. A sample names the family, its labels in
braces when it has any, and its value; a histogram's sample is its `_count`, the number of
observations. Values are written in the general layout with shortest digits, and zero as `0`
whatever its sign.

In help texts a backslash and a line feed are escaped; in label values a double quote is
escaped as well.

A snapshot lists each family that has series, by name, and each family's series in order: its
labels by name, and its value, or for a histogram its sample count. Values are written as the
shortest decimals that read back.
-/

namespace CampusLedger.Metrics

/-- Escapes backslashes and line feeds, and double quotes when `quotes` is set. -/
def escapeText (quotes : Bool) (s : String) : String :=
  String.ofList (s.toList.flatMap fun c =>
    if c == '\\' then ['\\', '\\']
    else if c == '\n' then ['\\', 'n']
    else if quotes && c == '"' then ['\\', '"']
    else [c])

def sampleText (x : Float) : String := if x == 0 then "0" else Decimal.generalText x

/-- The braced labels of a sample, or nothing when it has none. -/
def labelsText (pairs : List (String × String)) : String :=
  if pairs.isEmpty then ""
  else
    "\x7b" ++ ",".intercalate (pairs.map fun (k, v) => k ++ "=\"" ++ escapeText true v ++ "\"") ++
      "\x7d"

def Family.lines (f : Family) : List String :=
  ["# HELP " ++ f.name ++ " " ++ escapeText false f.help, "# TYPE " ++ f.name ++ " " ++ f.kind.name] ++
    f.sortedSeries.map fun s =>
      let labels := labelsText (f.sortedPairs s)
      match f.kind with
      | .histogram => f.name ++ "_count" ++ labels ++ " " ++ toString s.count
      | _ => f.name ++ labels ++ " " ++ sampleText s.total

def Registry.lines (r : Registry) : List String := r.gather.flatMap Family.lines

/-- The exposition text: every line followed by a line feed. -/
def Registry.exposition (r : Registry) : String :=
  String.join (r.lines.map (· ++ "\n"))


def Family.seriesJson (f : Family) : Json :=
  .arr (f.sortedSeries.map fun s =>
    let labels := Json.obj ((f.sortedPairs s).map fun (k, v) => (k, Json.str v))
    match f.kind with
    | .histogram => .obj [("labels", labels), ("count", .nat s.count)]
    | _ => .obj [("labels", labels), ("value", .num (Decimal.jsonText s.total))])

/-- The registry's families with series, by name. -/
def Registry.snapshot (r : Registry) : Json :=
  .obj (r.gather.map fun f => (f.name, f.seriesJson))

end CampusLedger.Metrics
