import CampusLedger.Http.Message
import CampusLedger.Http.Target
/-!
# Switching to the websocket protocol

A request asks to switch protocols with four headers, checked in this order:

* `Connection` lists the token `upgrade`;
* `Upgrade` lists the token `websocket`;
* the method is `GET`;
* `Sec-WebSocket-Version` lists the token `13`;
* the first `Sec-WebSocket-Key` is sixteen octets in standard base64: 22 digits of the
  alphabet and `==`.

Tokens compare without regard to ASCII case. A header value is read as a list of tokens
separated by commas, each with optional blanks around it; reading a value stops at the first
element that is not a lone token, and the elements after it are not looked at.

A request that passes every check still needs a connection that can be handed over: one served
in memory cannot, and is answered with 500. Each refusal is answered with the text of its
status.
-/

namespace CampusLedger.Http

/-- Whether an octet may stand in a token of a header list: visible ASCII other than the
separators ``"(),/:;<=>?@[]\{}``. -/
def isListTokenOctet (b : UInt8) : Bool :=
  33 ≤ b && b ≤ 126 && !"\"(),/:;<=>?@[]\\\x7b\x7d".toUTF8.toList.contains b

/-- Whether an octet is a blank around the elements of a header list. -/
def isListBlank (b : UInt8) : Bool := b == 32 || b == 9 || b == 13 || b == 10

/-- Two texts of octets equal without regard to ASCII case. -/
def foldEqual (a b : List UInt8) : Bool :=
  let lower (x : UInt8) : UInt8 := if 65 ≤ x && x ≤ 90 then x + 32 else x
  a.map lower == b.map lower

/-- Whether the comma-separated elements of one header value include the token `want`, reading
the elements in order and stopping at the first that is not a lone token. -/
def listHasToken (want : List UInt8) : List (List UInt8) → Bool
  | [] => false
  | piece :: more =>
    let s := piece.dropWhile isListBlank
    let token := s.takeWhile isListTokenOctet
    let after := (s.drop token.length).dropWhile isListBlank
    if token.isEmpty || !after.isEmpty then false
    else foldEqual token want || listHasToken want more

def Request.lists (r : Request) (name token : String) : Bool :=
  r.headers.any fun (k, v) =>
    headerKey k == headerKey name &&
      listHasToken token.toUTF8.toList (splitOctets 44 v.toUTF8.toList)

def isBase64Octet (b : UInt8) : Bool :=
  (65 ≤ b && b ≤ 90) || (97 ≤ b && b ≤ 122) || (48 ≤ b && b ≤ 57) || b == 43 || b == 47

/-- Whether a key is sixteen octets in padded standard base64. -/
def validHandshakeKey (key : String) : Bool :=
  let bs := key.toUTF8.toList
  bs.length == 24 && (bs.take 22).all isBase64Octet && bs.drop 22 == [61, 61]

inductive Handshake where
  | refused (status : Nat)
  /-- Accepted: the connection switches. -/
  | accepted
  deriving DecidableEq, Repr

/-- The handshake of a request, by the checks in order. -/
def Request.handshake (r : Request) : Handshake :=
  if !r.lists "Connection" "upgrade" then .refused 400
  else if !r.lists "Upgrade" "websocket" then .refused 400
  else if r.method != "GET" then .refused 405
  else if !r.lists "Sec-WebSocket-Version" "13" then .refused 400
  else if !validHandshakeKey ((r.header? "Sec-WebSocket-Key").getD "") then .refused 400
  else if !r.takeover then .refused 500
  else .accepted

def statusText : Nat → String
  | 400 => "Bad Request"
  | 405 => "Method Not Allowed"
  | _ => "Internal Server Error"

end CampusLedger.Http
