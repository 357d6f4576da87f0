import CampusLedger.Json.Fields
import CampusLedger.Json.Generic
import CampusLedger.Crypto.Sha256
import CampusLedger.Text.Base64
import CampusLedger.Identifier
/-!
# Bearer tokens

A bearer token is a JSON Web Token signed with HMAC-SHA256: three URL-safe base64 segments
(header, claims, signature) joined by dots. The subject is the caller's account.

Validation refuses, as `invalid token`, anything that is not three segments of base64 holding a
JSON header and JSON claims, a header whose algorithm is not `HS256`, and a signature that does
not match. The claims are then checked together: the expiry must be after now, the not-before
time must not be after now, and the issuer must match when one is expected. When the expiry is
among the failed checks the token `has expired`, otherwise it is `invalid`. A subject that is
not an account identifier is refused last.

Times in claims are seconds, read as doubles and kept to the whole second. They are compared as
whole seconds since 0001-01-01 in a signed 64-bit word, so the expiry must be a later second
than now's, and the not-before time no later second.
-/

namespace CampusLedger.Token

/-- The registered claims of a token. Times are whole seconds since the epoch. -/
structure Claims where
  issuer : String := ""
  subject : String := ""
  audience : List String := []
  expiresAt : Option Int := none
  notBefore : Option Int := none
  issuedAt : Option Int := none
  id : String := ""
  deriving DecidableEq, Repr, Inhabited

/-- The claims as JSON, unset claims left out. -/
def Claims.toJson (c : Claims) : Json :=
  let opt (cond : Bool) (k : String) (v : Json) : List (String × Json) :=
    if cond then [(k, v)] else []
  .obj (opt (!c.issuer.isEmpty) "iss" (.str c.issuer) ++
    opt (!c.subject.isEmpty) "sub" (.str c.subject) ++
    opt (!c.audience.isEmpty) "aud" (.arr (c.audience.map Json.str)) ++
    (c.expiresAt.map fun t => [("exp", Json.int t)]).getD [] ++
    (c.notBefore.map fun t => [("nbf", Json.int t)]).getD [] ++
    (c.issuedAt.map fun t => [("iat", Json.int t)]).getD [] ++
    opt (!c.id.isEmpty) "jti" (.str c.id))

def header : Json := .obj [("alg", .str "HS256"), ("typ", .str "JWT")]

/-- The URL-safe base64 of a JSON value's text. -/
def segment (v : Json) : String := Text.Base64.encodeText v.compact.toUTF8.toList

/-- The signature segment of a signing input under a key. -/
def signature (key : String) (input : String) : String :=
  Text.Base64.encodeText (Crypto.hmacSha256 key.toUTF8.toList input.toUTF8.toList)

def sign (key : String) (c : Claims) : String :=
  let input := segment header ++ "." ++ segment c.toJson
  input ++ "." ++ signature key input

/-- Issues a token for an account, valid for `ttl` nanoseconds from `now`. -/
def issue (key issuer : String) (account : AccountId) (ttl : Int) (now : Instant) (id : String) :
    Except Failure String :=
  if account.isZero then .error (.make .invalidInput "account is required")
  else
    let claims : Claims :=
      { issuer := issuer
        subject := account.name
        expiresAt := some ((now.nanos + ttl) / Instant.second)
        issuedAt := some (now.nanos / Instant.second)
        id := id }
    .ok (sign key claims)

/-- Whether a text is a JSON numeral in full, with nothing before or after it. -/
def isNumeral (s : String) : Bool :=
  match Json.numeral? (Json.ascii s) with
  | some (_, []) => true
  | _ => false

/-- The whole second, since the epoch, that a time claim's numeral stands for; none when the
numeral lies beyond the range of doubles. The numeral is read as the nearest double. Its whole
part, cut toward zero, is the second, and one second earlier when the fraction left over comes
to a whole nanosecond or more below zero. A whole part beyond the 64-bit range collapses to the
least 64-bit value. -/
def secondsOf? (n : String) : Option Int := do
  let x ← Json.numberValue? n
  let limit : Float := 9223372036854775808.0
  if x ≥ limit || x < -limit then some (-(Int.pow 2 63))
  else
    let whole := if x < 0 then x.ceil else x.floor
    let sec := whole.toInt64.toInt
    if (x - whole) * 1000000000.0 ≤ -1.0 then some (sec - 1) else some sec

/-- Seconds from 0001-01-01T00:00:00Z to the epoch. -/
def yearOneOffset : Int := 62135596800

/-- A time as whole seconds since 0001-01-01, the signed 64-bit word in which times are
compared: a claim far enough past the epoch wraps around to a time long before it. -/
def sinceYearOne (unix : Int) : Int := Instant.wrapGap (unix + yearOneOffset)

/-- A time claim: `null` empties it, a number or numeric text sets it. -/
def timeClaim (r : Json.Routed) (name : String) : Except Unit (Option Int) :=
  r.fold name none fun _ v =>
    match v with
    | .null => .ok none
    | .num n => match secondsOf? n with
      | some s => .ok (some s)
      | none => .error ()
    | .str s =>
      if !isNumeral s then .error ()
      else match secondsOf? s with
        | some t => .ok (some t)
        | none => .error ()
    | _ => .error ()

/-- The audience claim: one text or an array of texts; `null` keeps it. -/
def audienceClaim (r : Json.Routed) : Except Unit (List String) :=
  r.fold "aud" [] fun acc v =>
    match v with
    | .null => .ok acc
    | .str s => .ok [s]
    | .arr xs => xs.mapM fun x => match x with
      | .str s => .ok s
      | _ => .error ()
    | _ => .error ()

def claimsOf (v : Json) : Except Unit Claims := do
  let ms ← Json.recordMembers v
  let r := Json.route ["iss", "sub", "aud", "exp", "nbf", "iat", "jti"] ms
  let issuer ← r.text "iss"
  let subject ← r.text "sub"
  let audience ← audienceClaim r
  let expiresAt ← timeClaim r "exp"
  let notBefore ← timeClaim r "nbf"
  let issuedAt ← timeClaim r "iat"
  let id ← r.text "jti"
  pure { issuer, subject, audience, expiresAt, notBefore, issuedAt, id }

def segmentJson? (seg : String) : Option Json := do
  let bs ← Text.Base64.decode seg
  Json.parse? bs

/-- The algorithm a header names: the last `alg` member, when it is a text. -/
def algorithm? (h : Json) : Option String :=
  match h.members.reverse.find? (·.1 == "alg") with
  | some (_, Json.str a) => some a
  | _ => none

def invalid : Failure := .make .unauthorized "invalid token"

/-- Validates a token under a key and an expected issuer at `now`, giving its claims. -/
def validate (key issuer : String) (now : Instant) (token : String) : Except Failure Claims :=
  match token.splitOn "." with
  | [h, c, s] =>
    match segmentJson? h, segmentJson? c with
    | some hj, some cj =>
      let headerOk := match hj with
        | .obj _ | .null => true
        | _ => false
      match headerOk, claimsOf cj with
      | true, .ok claims =>
        if algorithm? hj != some "HS256" then .error invalid
        else
          match Text.Base64.decode s with
          | none => .error invalid
          | some sig =>
            if sig != Crypto.hmacSha256 key.toUTF8.toList (h ++ "." ++ c).toUTF8.toList then
              .error invalid
            else
              let nowSec := sinceYearOne now.unixSeconds
              let expired : Bool := match claims.expiresAt with
                | some e => !decide (nowSec < sinceYearOne e)
                | none => false
              let early : Bool := match claims.notBefore with
                | some nb => decide (nowSec < sinceYearOne nb)
                | none => false
              let wrongIssuer := !issuer.isEmpty && claims.issuer != issuer
              if expired then .error (.make .unauthorized "token has expired")
              else if early || wrongIssuer then .error invalid
              else
                match AccountId.ofText claims.subject with
                | .ok _ => .ok claims
                | .error _ => .error (.make .unauthorized "invalid token subject")
      | _, _ => .error invalid
    | _, _ => .error invalid
  | _ => .error invalid

/-- The header and claims of a token, read without checking it. -/
def inspect? (token : String) : Option (Json × Json) :=
  match token.splitOn "." with
  | [h, c, _] => do
    let hj ← segmentJson? h
    let cj ← segmentJson? c
    pure (hj, cj)
  | _ => none

end CampusLedger.Token
