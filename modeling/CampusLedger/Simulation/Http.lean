import CampusLedger.Simulation.Session
import CampusLedger.Api.Server
import CampusLedger.Http.Head
/-!
# Request steps

A request step sends one HTTP request to the campus's server at the session clock and reports
the status, the body and the headers a client would look at: the rate-limit headers and the
request identifier. Bearer tokens are checked against the wall clock.

The request is built by reading its head from the method, `GET` when empty, and the target; a
head that does not read makes the building panic with the reason. A step may give the
`Authorization` header as is, even empty; otherwise its caller is authenticated with a bearer
token signed for it that expires at the start of 2100. Before sending, each `$R<k>` in the body
stands for the identifier of the k-th receipt, counted from the end when k is negative, and
stays as it is when there is no such receipt. A transfer answered with 201 adds its receipt to
the session.

A JSON body is reported as its value, any other body as `{"text": …}`, and the exposition of
`/metrics` as its lines.
-/

namespace CampusLedger.Simulation

open Play

def digitsValue (ds : List Char) : Nat := ds.foldl (fun n c => n * 10 + (c.toNat - 48)) 0

def unsigned (cs : List Char) : List Char := if cs.head? == some '-' then cs.drop 1 else cs

theorem length_unsigned_le (cs : List Char) : (unsigned cs).length ≤ cs.length := by
  unfold unsigned
  split <;> simp

/-- Replaces each receipt reference `$R<k>` whose receipt exists by its identifier. -/
def substituteReceipts (receipts : List Transfer) : List Char → List Char
  | [] => []
  | '$' :: 'R' :: rest =>
    let ds := (unsigned rest).takeWhile Char.isDigit
    let after := (unsigned rest).dropWhile Char.isDigit
    let k : Int := if rest.head? == some '-' then -(digitsValue ds : Int) else digitsValue ds
    match (if ds.isEmpty then none else receipt? receipts k) with
    | some t => t.id.toText.toList ++ substituteReceipts receipts after
    | none => '$' :: substituteReceipts receipts ('R' :: rest)
  | c :: rest => c :: substituteReceipts receipts rest
termination_by cs => cs.length
decreasing_by
  · have h1 := (List.dropWhile_suffix Char.isDigit (l := unsigned rest)).length_le
    have h2 := length_unsigned_le rest
    simp only [List.length_cons]
    omega
  · simp
  · simp

/-- The moment tokens of scenario callers expire: 2100-01-01T00:00:00Z. -/
def callerTokenExpiry : Int := 4102444800

def callerToken (w : Wiring) (caller : String) : String :=
  Token.sign w.signingKey { subject := caller, issuer := w.issuer, expiresAt := some callerTokenExpiry }

def reportedHeaders : List String :=
  ["X-RateLimit-Limit", "X-RateLimit-Remaining", "X-RateLimit-Reset", "X-Request-ID"]

def sampleName (line : String) : String := (line.takeWhile fun c => c != '\x7b' && c != ' ').toString

/-- The lines of an exposition that a step reports: all but the bucket and sum samples. -/
def reportedLines (text : String) : List String :=
  (text.splitOn "\n").filter fun line =>
    !line.isEmpty &&
      (line.startsWith "#" ||
        !((sampleName line).endsWith "_bucket" || (sampleName line).endsWith "_sum"))

/-- The body as a step reports it, for a request to the decoded path `path`. -/
def bodyJson (path : String) (r : Http.Response) : Json :=
  match r.body with
  | .json v => v
  | .text t =>
    if path == "/metrics" && r.status == 200 then
      .obj [("lines", .arr ((reportedLines t).map Json.str))]
    else (Json.parseText? t).getD (.obj [("text", .str t)])
  | .switched _ => .obj [("text", .str "")]

def receiptOf (v : Json) : Transfer :=
  { id := (Uuid.ofText? (v.textAt "id")).getD Uuid.nil, asset := ⟨v.natAt "asset_id"⟩,
    source := ⟨v.textAt "from"⟩, target := ⟨v.textAt "to"⟩, amount := v.natAt "amount" }

/-- The headers of a step's request: the `Authorization` header as given or else the caller's
bearer token, then the request identifier when the step gives one. -/
def stepHeaders (w : Wiring) (step : Json) : List (String × String) :=
  let caller := step.textAt "caller"
  let authorization :=
    if step.has "authorization" then some (step.textAt "authorization")
    else if !caller.isEmpty then some ("Bearer " ++ callerToken w caller)
    else none
  let requestId := step.textAt "request_id"
  (authorization.map fun a => [("Authorization", a)]).getD [] ++
    (if requestId.isEmpty then [] else [("X-Request-ID", requestId)])

def withReceipts (receipts : List Transfer) (t : String) : String :=
  String.ofList (substituteReceipts receipts t.toList)

/-- Serves a request on the session's campus at the session clock, giving the response and the
headers written; a fault of the program is answered as the server answers it. -/
def serveRequest (req : Http.Request) : Play (Http.Response × Http.Headers) := do
  let s ← get
  let ((r, written), campus) :=
    (((Api.serve s.campus.wiring s.wall s.clock req).run).run []).run s.campus
  set { s with campus }
  let resp := match r with
    | .ok resp => resp
    | .error _ => Api.internalFault
  pure (resp, written)

/-- The head of a step's request, or the panic of building it. -/
def stepHead (step : Json) : Play Http.Head :=
  match Http.readHead (step.textAt "method") (step.textAt "path") with
  | .ok h => pure h
  | .error e => throw (.failed (.panic ("invalid NewRequest arguments; " ++ e)))

def httpStep (step : Json) : Play Json := do
  let head ← stepHead step
  let s ← get
  let method := head.method
  let path := head.url.path
  let raw :=
    if step.has "body" then some (step.textAt "body")
    else (step.get? "json").map Json.compact
  let body := (raw.map fun t => (withReceipts s.receipts t).toUTF8.toList).getD []
  let remote := step.textAt "remote_addr"
  let req : Http.Request :=
    { method, target := head.target, headers := stepHeaders s.campus.wiring step ++ head.headers
      body, remoteAddr := if remote.isEmpty then Http.defaultRemoteAddr else remote }
  let (resp, written) ← serveRequest req
  let shown := reportedHeaders.filterMap fun h => (written.get? h).map fun v => (h, Json.str v)
  let answer := Json.obj ([("status", .nat resp.status), ("body", bodyJson path resp)] ++
    (if shown.isEmpty then [] else [("headers", .obj shown)]))
  if method == "POST" && resp.status == 201 && path.endsWith "/transfers" then
    let k ← keepReceipt (receiptOf (bodyJson path resp))
    pure (answer.push "receipt" (.nat k))
  else pure answer

end CampusLedger.Simulation
