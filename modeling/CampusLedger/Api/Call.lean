import CampusLedger.Http.Handshake
import CampusLedger.Http.Route
import CampusLedger.Api.Requests
import CampusLedger.Api.Body
import CampusLedger.Text.Distinct
/-!
# Calls

A call is what a route's handler sees of a request: the request's context, the authenticated
caller (none on open routes), the parameters its pattern took, the decoded query and the body.
A handler answers every failure of the campus with the error reply of its code; only a fault
of the program passes through it, to be answered by the server.
-/

namespace CampusLedger.Api

/-- What a handler sees of a request. -/
structure Call where
  ctx : Context
  caller : AccountId := ⟨""⟩
  params : List (String × List UInt8) := []
  query : List (List UInt8 × List UInt8) := []
  body : List UInt8 := []
  /-- What the request's handshake to switch to the event feed's protocol comes to. -/
  handshake : Http.Handshake := .refused 400

abbrev Handler := Call → Act Http.Response

/-- Whether a failure is a fault of the program. -/
def isPanic : Failure → Bool
  | .panic _ => true
  | _ => false

/-- Answers with `ok` of the act's value, or with the failure it ends in; faults of the program
pass on. -/
def respond {α : Type} (x : Act α) (ok : α → Http.Response) : Act Http.Response :=
  tryCatch (ok <$> x) fun e => if isPanic e then throw e else pure (.ofFailure e)

/-- Continues with a checked value, or answers with the failure of the check. -/
def checked {α : Type} (x : Except Failure α) (k : α → Act Http.Response) : Act Http.Response :=
  match x with
  | .ok a => k a
  | .error e => pure (.ofFailure e)

namespace Call

/-- The caller; an anonymous call is refused. -/
def requireCaller (c : Call) : Except Failure AccountId :=
  if c.caller.isZero then .error (.make .unauthorized "authentication required") else .ok c.caller

def account (c : Call) (name : String := "account") : Except Failure AccountId :=
  AccountId.parse (Http.paramOf c.params name)

def asset (c : Call) : Except Failure AssetId :=
  AssetId.ofText (Text.Utf8.toText (Http.paramOf c.params "asset"))

def queryValues (c : Call) (key : String) : List (List UInt8) := Http.queryValues c.query key

def queryValue (c : Call) (key : String) : List UInt8 := Http.queryValue c.query key

end Call

end CampusLedger.Api
