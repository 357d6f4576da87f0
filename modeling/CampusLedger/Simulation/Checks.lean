import CampusLedger.Simulation.Http
import CampusLedger.Json.Generic
/-!
# Check steps

A check step builds a request the way the handler suites do, serves it, and runs its checks
in order against the one recorded response, reporting for each whether it held and, for the
checks that read the body into a map, the map read.

How a request is built decides its body: `json` sends the step's value with each object's keys
in order, once, followed by a newline, and nothing for a null or absent value; `raw` sends the
step's text; any other build sends no body. A cancelled request was given up by its client
before it is served.

The recorded body is read once: the first check that reads it takes it, and every later
reading check finds nothing and fails. A reading takes the first JSON value of the body. As a
map it must be an object, or null for no map; as a map of texts, each member must moreover be
a text, a null member reading as the empty text.
-/

namespace CampusLedger.Simulation

open Json

inductive Check where
  | status (want : Nat)
  /-- The status is 200. -/
  | ok
  /-- The status is the given one, and the body is an error map of the given code. -/
  | statusAndError (want : Nat) (code : String)
  /-- The body is a map whose member of the key is the generic value, a missing member
  counting as null. -/
  | contains (key : String) (want : Json)
  | readMap
  | readTextMap
  /-- A check of no known kind, which never holds. -/
  | unknown
  deriving Inhabited

/-- The check a step's entry asks for. -/
def Check.ofJson (v : Json) : Check :=
  match v.textAt "kind" with
  | "status" => .status (v.natAt "status")
  | "ok" => .ok
  | "status_and_error" => .statusAndError (v.natAt "status") (v.textAt "code")
  | "json_contains" => .contains (v.textAt "key") (((v.get? "want").bind generic?).getD .null)
  | "unmarshal" => .readMap
  | "error_response" => .readTextMap
  | _ => .unknown

/-- A value read as a map of generic values: an object, or null for no map. -/
def readMap? : Json → Option Json
  | .null => some .null
  | .obj ms => generic? (.obj ms)
  | _ => none

/-- A member read as a text: a text, or null for the empty text. -/
def textMember? : String × Json → Option (String × Json)
  | (k, .str s) => some (k, .str s)
  | (k, .null) => some (k, .str "")
  | _ => none

/-- A value read as a map of texts: an object of texts, or null for no map. -/
def readTextMap? : Json → Option Json
  | .null => some .null
  | .obj ms => (ms.mapM textMember?).map fun ms => .obj (lastOfEachKey ms)
  | _ => none

/-- The outcome of a check: whether it held, and the map it read when it reports one. -/
structure Outcome where
  passed : Bool
  value : Option Json := none

/-- Runs a check on a response of the status whose unread body starts with `unread`, giving
the outcome and what is left unread. -/
def Check.run (status : Nat) (unread : Option Json) : Check → Outcome × Option Json
  | .status want => (⟨status == want, none⟩, unread)
  | .ok => (⟨status == 200, none⟩, unread)
  | .statusAndError want code =>
    match unread.bind readTextMap? with
    | some m => (⟨status == want && m.textAt "error" == code, none⟩, none)
    | none => (⟨false, none⟩, none)
  | .contains key want =>
    match unread.bind readMap? with
    | some m => (⟨sameGeneric want ((m.get? key).getD .null), none⟩, none)
    | none => (⟨false, none⟩, none)
  | .readMap =>
    match unread.bind readMap? with
    | some m => (⟨true, some m⟩, none)
    | none => (⟨false, none⟩, none)
  | .readTextMap =>
    match unread.bind readTextMap? with
    | some m => (⟨true, some m⟩, none)
    | none => (⟨false, none⟩, none)
  | .unknown => (⟨false, none⟩, unread)

def runChecks (status : Nat) : Option Json → List Check → List Outcome
  | _, [] => []
  | unread, c :: cs =>
    let (o, rest) := c.run status unread
    o :: runChecks status rest cs

def firstValue : Http.Body → Option Json
  | .json v => some v
  | .text t => (readPrefix? t.toUTF8.toList).map (·.1)
  | .switched _ => none

def builtBody (receipts : List Transfer) (step : Json) : List UInt8 :=
  match step.textAt "build" with
  | "json" =>
    match step.get? "json" with
    | none | some .null => []
    | some v =>
      match parseText? (withReceipts receipts v.compact) with
      | some v => ((keyed v).compact ++ "\n").toUTF8.toList
      | none => []
  | "raw" => (withReceipts receipts (step.textAt "body")).toUTF8.toList
  | _ => []

def checkStep (step : Json) : Play Json := do
  let head ← stepHead step
  let s ← get
  let req : Http.Request :=
    { method := head.method, target := head.target
      headers := stepHeaders s.campus.wiring step ++ head.headers
      body := builtBody s.receipts step, cancelled := step.boolAt "cancelled" }
  let (resp, _) ← serveRequest req
  let entries := step.listAt "asserts"
  let outcomes := runChecks resp.status (firstValue resp.body) (entries.map Check.ofJson)
  let reports := (entries.zip outcomes).map fun (e, o) =>
    Json.obj ([("kind", .str (e.textAt "kind")), ("passed", .bool o.passed)] ++
      (o.value.map fun v => [("value", v)]).getD [])
  pure (.obj [("built", .bool true), ("status", .nat resp.status), ("asserts", .arr reports)])

end CampusLedger.Simulation
