import CampusLedger.Text.Printable
import CampusLedger.Failure
import CampusLedger.Json.Value
/-!
# Requests and responses

A request names a method and a target, carries headers and a body of octets, and comes from a
remote address. Header names compare without regard to ASCII case, and the first header of a
name is the one read.

A response has a status and a body that is either a JSON value, written by the JSON writer,
or plain text. The headers a server writes live beside the response, in the exchange that
serves it.

A failure is answered with the HTTP status of its code and a body naming the code. The body
describes the failure with the message of its first coded failure, but only below status 500
and only when that message is not empty: internal messages are never shown.
-/

namespace CampusLedger.Http

/-- The HTTP status of a code: 403 for unauthorized callers, 409 for lifecycle and registration
conflicts, 404 for unknown records, 400 for malformed input, 422 for amounts that do not fit,
429 for throttled callers, 504 for timeouts, and 500 otherwise. -/
def statusOf : Code → Nat
  | .unauthorized => 403
  | .alreadyInitialized | .alreadyRegistered | .notInitialized | .conflict => 409
  | .unknownAccount | .notFound => 404
  | .invalidDeposit | .invalidInput | .badRequest => 400
  | .insufficientBalance | .overflow => 422
  | .rateLimited => 429
  | .timeout => 504
  | .internal | .other _ => 500

/-- The error body of a code and an optional description. -/
def problemBody (code : Code) (description : String) : Json :=
  if description.isEmpty then .obj [("error", .str code.name)]
  else .obj [("error", .str code.name), ("error_description", .str description)]

def problemOf (e : Failure) : Nat × Json :=
  let status := statusOf e.code
  let description :=
    if status < 500 then (e.firstCoded?.map (·.2)).getD "" else ""
  (status, problemBody e.code description)


def headerKey (name : String) : String := name.map Char.toLower

def defaultRemoteAddr : String := "192.0.2.1:1234"

structure Request where
  method : String
  target : String
  headers : List (String × String) := []
  body : List UInt8 := []
  remoteAddr : String := defaultRemoteAddr
  /-- Whether the client has given up on the request before it is served. -/
  cancelled : Bool := false
  /-- Whether the connection the request came on can be handed over to another protocol: a
  live connection can, a request served in memory cannot. -/
  takeover : Bool := false
  deriving Inhabited

def Request.header? (r : Request) (name : String) : Option String :=
  (r.headers.find? fun (k, _) => headerKey k == headerKey name).map (·.2)

inductive Body where
  /-- A JSON value, written with a newline after it. -/
  | json (v : Json)
  /-- Plain text, written as is. -/
  | text (s : String)
  /-- No body: the connection switched to the event feed under a number. -/
  | switched (conn : Nat)
  deriving Inhabited

structure Response where
  status : Nat
  body : Body
  deriving Inhabited

namespace Response

/-- A JSON response. The status goes out before the body is written, so a value that cannot be
written leaves the status with an empty body. -/
def ofJson (status : Nat) (v : Json) : Response :=
  if v.unwritable then ⟨status, .text ""⟩ else ⟨status, .json v.settle⟩

/-- The response that reports a failure: the status of its code and the error body. -/
def ofFailure (e : Failure) : Response :=
  let (status, body) := problemOf e
  ⟨status, .json body⟩

/-- The plain-text error of a status: the text and a newline. -/
def plainError (status : Nat) (text : String) : Response := ⟨status, .text (text ++ "\n")⟩

end Response

/-- The headers a server has written, in order; setting a header replaces its value. -/
abbrev Headers := List (String × String)

def Headers.set (hs : Headers) (name value : String) : Headers :=
  if hs.any (fun (k, _) => headerKey k == headerKey name) then
    hs.map fun (k, v) => if headerKey k == headerKey name then (k, value) else (k, v)
  else hs ++ [(name, value)]

def Headers.get? (hs : Headers) (name : String) : Option String :=
  (hs.find? fun (k, _) => headerKey k == headerKey name).map (·.2)

end CampusLedger.Http
