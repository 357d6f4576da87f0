import CampusLedger.Http.Target
import CampusLedger.Text.Quoted
import CampusLedger.Net.IpLiteral
/-!
# URLs

A URL is read as `scheme:` then either a rootless part or `//authority`, a path, a query after
the first `?` and a fragment after the first `#`. The authority is `userinfo@host`, split at
the last `@`; the userinfo is `name` or `name:password`, and a host may end in `:port`, where
the port is digits only. The path, the userinfo and the host are percent-decoded.

Reading refuses, with a reason:

* any control octet;
* a URL that starts with a colon (no scheme before it);
* a relative URL whose first segment holds a colon;
* a port that is not all digits, or a bracketed host without its `]`;
* a `%` not followed by two hexadecimal digits;
* in a host, an escape of an ASCII octet other than `%25`, and any ASCII octet that a host
  cannot hold;
* userinfo with an octet outside the unreserved, sub-delimiter, `:`, `%` and `@` sets.

A URL is written back with its userinfo and host escaped and its path and fragment as they were
sent, unless that is not a valid escaping of the decoded part, in which case the part is escaped
anew.
-/

namespace CampusLedger.Net

/-- A refused URL: the text quoted in the message and the reason. -/
structure UrlError where
  text : String
  reason : String
  deriving Repr

def UrlError.message (e : UrlError) : String := "parse " ++ Text.quote e.text ++ ": " ++ e.reason

/-- The parts of a URL that escape octets differently. -/
inductive Part where
  | host
  | zone
  | path
  | userinfo
  | fragment
  deriving DecidableEq, Repr

def isAlnum (b : UInt8) : Bool := (97 ≤ b && b ≤ 122) || (65 ≤ b && b ≤ 90) || (48 ≤ b && b ≤ 57)

def mustEscape (part : Part) (b : UInt8) : Bool :=
  let hostLike := part == .host || part == .zone
  if isAlnum b then false
  else if hostLike && "!$&'()*+,;=:[]<>\"".toUTF8.toList.contains b then false
  else if "-_.~".toUTF8.toList.contains b then false
  else if "$&+,/:;=?@".toUTF8.toList.contains b then
    match part with
    | .path => b == 63
    | .userinfo => b == 64 || b == 47 || b == 63 || b == 58
    | .fragment => false
    | .host | .zone => true
  else if part == .fragment && "!()*".toUTF8.toList.contains b then false
  else true

/-- The escaping of octets for a part: `%` and two upper-case hexadecimal digits. -/
def escapeFor (part : Part) (bs : List UInt8) : List UInt8 :=
  bs.flatMap fun b => if mustEscape part b then Http.escapeOctet b else [b]

/-- Checks the escapes of a part and decodes it; the error is the reason. A host may escape
only octets beyond ASCII, and `%25`; a zone may escape any octet that a host may hold as it is,
the space, and `%25`. -/
def unescapePart (part : Part) : List UInt8 → Except String (List UInt8)
  | [] => .ok []
  | 37 :: rest =>
    match rest with
    | a :: b :: more =>
      match Http.hexValue? a, Http.hexValue? b with
      | some x, some y =>
        let v := (x * 16 + y).toUInt8
        let percent := a == 50 && b == 53
        if part == .host && x < 8 && !percent then
          .error ("invalid URL escape " ++ Text.quoteOctets [37, a, b])
        else if part == .zone && !percent && v != 32 && mustEscape .host v then
          .error ("invalid URL escape " ++ Text.quoteOctets [37, a, b])
        else (unescapePart part more).map (v :: ·)
      | _, _ => .error ("invalid URL escape " ++ Text.quoteOctets ([37] ++ (rest.take 2)))
    | _ => .error ("invalid URL escape " ++ Text.quoteOctets (37 :: rest))
  | b :: rest =>
    if (part == .host || part == .zone) && b < 128 && mustEscape part b then
      .error ("invalid character " ++ Text.quoteOctets [b] ++ " in host name")
    else (unescapePart part rest).map (b :: ·)

/-- Whether octets are a valid escaping of a part as sent: each is a sub-delimiter, a colon,
an at sign, a bracket, a percent sign, or an octet the part writes as it is. -/
def validEscaping (part : Part) (bs : List UInt8) : Bool :=
  bs.all fun b => "!$&'()*+,;=:@[]%".toUTF8.toList.contains b || !mustEscape part b

def validPathEscaping (bs : List UInt8) : Bool := validEscaping .path bs

/-- A URL's userinfo: the name and, when given, the password. -/
structure Userinfo where
  name : String
  password : Option String := none
  deriving DecidableEq, Repr

def validUserinfo (bs : List UInt8) : Bool :=
  bs.all fun b => isAlnum b || "-._:~!$&'()*+,;=%@".toUTF8.toList.contains b

structure Url where
  scheme : String := ""
  /-- The part after the scheme when it does not start with a slash. -/
  rootless : String := ""
  user : Option Userinfo := none
  host : String := ""
  path : String := ""
  /-- The path as sent. -/
  rawPath : List UInt8 := []
  rawQuery : String := ""
  forceQuery : Bool := false
  fragment : String := ""
  /-- The fragment as sent, when that is not its default escaping. -/
  rawFragment : List UInt8 := []
  deriving Repr

/-- Splits the scheme off a URL: none when the text does not start with one. -/
def schemeSplit (bs : List UInt8) : Except String (Option (List UInt8) × List UInt8) :=
  let isLetter (b : UInt8) := (97 ≤ b && b ≤ 122) || (65 ≤ b && b ≤ 90)
  let isSchemeTail (b : UInt8) := (48 ≤ b && b ≤ 57) || b == 43 || b == 45 || b == 46
  let lead := bs.takeWhile fun b => isLetter b || isSchemeTail b
  match bs.drop lead.length with
  | 58 :: rest =>
    if lead.isEmpty then .error "missing protocol scheme"
    else if lead.head?.any isSchemeTail then .ok (none, bs)
    else .ok (some lead, rest)
  | _ => .ok (none, bs)

def lastIndexOf (b : UInt8) (bs : List UInt8) : Option Nat :=
  ((List.range bs.length).filter fun i => bs[i]? == some b).getLast?

def zoneStart? (bs : List UInt8) : Option Nat :=
  (List.range bs.length).find? fun i => (bs.drop i).take 3 == [37, 50, 53]

/-- Reads the host of an authority; the error is the reason. A host with a `[` must open with
it and hold an IPv6 address up to its last `]`, then an optional `:port`; the address is
unescaped, its zone after `%25` with the zone's rules, and written back in brackets. Any other
host may end in `:port` and is unescaped as a whole. -/
def parseHost (bs : List UInt8) : Except String String := do
  let portOk (colonPort : List UInt8) : Bool :=
    match colonPort with
    | [] => true
    | 58 :: ds => ds.all fun d => 48 ≤ d && d ≤ 57
    | _ => false
  match lastIndexOf 91 bs with
  | some 0 =>
    match lastIndexOf 93 bs with
    | none => throw "missing ']' in host"
    | some j =>
      let colonPort := bs.drop (j + 1)
      if !portOk colonPort then
        throw ("invalid port " ++ Text.quoteOctets colonPort ++ " after host")
      let inner := (bs.take j).drop 1
      let address ← match zoneStart? inner with
        | some z => do
          let head ← unescapePart .host (inner.take z)
          let zone ← unescapePart .zone (inner.drop z)
          pure (head ++ zone)
        | none => unescapePart .host inner
      match parseIp address with
      | .error f => throw ("invalid host: " ++ f.message address)
      | .ok (.v4 _, _) => throw "invalid IP-literal"
      | .ok (.v6 _, _) => pure (Text.Utf8.toText ([91] ++ address ++ [93] ++ colonPort))
  | some _ => throw "invalid IP-literal"
  | none =>
    match lastIndexOf 58 bs with
    | none => pure ()
    | some i =>
      let colonPort := bs.drop i
      if !portOk colonPort then
        throw ("invalid port " ++ Text.quoteOctets colonPort ++ " after host")
    let decoded ← unescapePart .host bs
    pure (Text.Utf8.toText decoded)

/-- Reads an authority: the userinfo, if any, and the host. -/
def parseAuthority (bs : List UInt8) : Except String (Option Userinfo × String) := do
  match (List.range bs.length).filter (fun i => bs[i]? == some 64) |>.getLast? with
  | none => pure (none, ← parseHost bs)
  | some i =>
    let host ← parseHost (bs.drop (i + 1))
    let info := bs.take i
    if !validUserinfo info then throw "net/url: invalid userinfo"
    let name := info.takeWhile (· != 58)
    let user ← if info.contains 58 then do
        let n ← unescapePart .userinfo name
        let p ← unescapePart .userinfo ((info.dropWhile (· != 58)).drop 1)
        pure { name := Text.Utf8.toText n, password := some (Text.Utf8.toText p) }
      else do
        let n ← unescapePart .userinfo info
        pure { name := Text.Utf8.toText n }
    pure (some user, host)

/-- Reads a URL without its fragment; the error is the reason. A request target
(`viaRequest`) must not be empty, must be absolute or start with a slash, and has an authority
only after a scheme. -/
def parseBody (viaRequest : Bool) (bs : List UInt8) : Except String Url := do
  if bs.any fun b => b < 32 || b == 127 then throw "net/url: invalid control character in URL"
  if bs.isEmpty && viaRequest then throw "empty url"
  if bs == [42] then return { path := "*", rawPath := bs }
  let (scheme, rest) ← schemeSplit bs
  let scheme := Text.Utf8.toText ((scheme.getD []).map fun b => if 65 ≤ b && b ≤ 90 then b + 32 else b)
  let questions := rest.filter (· == 63)
  let (rest, rawQuery, forceQuery) :=
    if rest.getLast? == some 63 && questions.length == 1 then (rest.dropLast, [], true)
    else (rest.takeWhile (· != 63), (rest.dropWhile (· != 63)).drop 1, false)
  let rawQuery := Text.Utf8.toText rawQuery
  if rest.head? != some 47 then
    if !scheme.isEmpty then
      return { scheme, rootless := Text.Utf8.toText rest, rawQuery, forceQuery }
    if viaRequest then throw "invalid URI for request"
    if (rest.takeWhile (· != 47)).contains 58 then
      throw "first path segment in URL cannot contain colon"
  let slashes := rest.take 2 == [47, 47]
  let (user, host, pathPart) ←
    if slashes && (!scheme.isEmpty || (!viaRequest && rest.take 3 != [47, 47, 47])) then do
      let authority := (rest.drop 2).takeWhile (· != 47)
      let (user, host) ← parseAuthority authority
      pure (user, host, (rest.drop 2).dropWhile (· != 47))
    else pure (none, "", rest)
  let path ← unescapePart .path pathPart
  pure { scheme, user, host, path := Text.Utf8.toText path, rawPath := pathPart, rawQuery, forceQuery }

def Url.parse (raw : String) : Except UrlError Url :=
  let bs := raw.toUTF8.toList
  let body := bs.takeWhile (· != 35)
  let frag := (bs.dropWhile (· != 35)).drop 1
  match parseBody false body with
  | .error reason => .error ⟨Text.Utf8.toText body, reason⟩
  | .ok u =>
    if frag.isEmpty then .ok u
    else
      match unescapePart .fragment frag with
      | .error reason => .error ⟨raw, reason⟩
      | .ok f =>
        .ok { u with fragment := Text.Utf8.toText f
                     rawFragment := if escapeFor .fragment f == frag then [] else frag }

/-- Reads the target of a request line: the whole text is the URL, `#` included. -/
def Url.parseRequest (raw : String) : Except UrlError Url :=
  (parseBody true raw.toUTF8.toList).mapError fun reason => ⟨raw, reason⟩

/-- The decoded pairs of a URL's query, in order; pairs that do not decode are left out. -/
def Url.queryPairs (u : Url) : List (String × String) :=
  (Http.queryPairs u.rawQuery.toUTF8.toList).map fun (k, v) => (Text.Utf8.toText k, Text.Utf8.toText v)

/-- The decoded pairs of a URL's query, in order, with the keys as text and the values as the
octets they decode to. -/
def Url.queryOctets (u : Url) : List (String × List UInt8) :=
  (Http.queryPairs u.rawQuery.toUTF8.toList).map fun (k, v) => (Text.Utf8.toText k, v)

def Url.escapedPath (u : Url) : String :=
  if validPathEscaping u.rawPath && (unescapePart .path u.rawPath).toOption ==
      some u.path.toUTF8.toList then Text.Utf8.toText u.rawPath
  else Text.Utf8.toText (escapeFor .path u.path.toUTF8.toList)

/-- The fragment as written back: as it was sent when that is a valid escaping of it, else
escaped anew. -/
def Url.escapedFragment (u : Url) : String :=
  if !u.rawFragment.isEmpty && validEscaping .fragment u.rawFragment &&
      (unescapePart .fragment u.rawFragment).toOption == some u.fragment.toUTF8.toList then
    Text.Utf8.toText u.rawFragment
  else Text.Utf8.toText (escapeFor .fragment u.fragment.toUTF8.toList)

def Userinfo.text (i : Userinfo) : String :=
  Text.Utf8.toText (escapeFor .userinfo i.name.toUTF8.toList) ++
    ((i.password.map fun p => ":" ++ Text.Utf8.toText (escapeFor .userinfo p.toUTF8.toList)).getD "")

def Url.text (u : Url) : String :=
  let head := if u.scheme.isEmpty then "" else u.scheme ++ ":"
  let body :=
    if !u.rootless.isEmpty then u.rootless
    else
      let path := u.escapedPath
      let authority :=
        if u.scheme.isEmpty && u.host.isEmpty && u.user.isNone then ""
        else
          (if !u.host.isEmpty || !path.isEmpty || u.user.isSome then "//" else "") ++
            ((u.user.map fun i => i.text ++ "@").getD "") ++
            Text.Utf8.toText (escapeFor .host u.host.toUTF8.toList)
      let sep := if !path.isEmpty && !path.startsWith "/" && !u.host.isEmpty then "/" else ""
      authority ++ sep ++ path
  let query := if u.forceQuery || !u.rawQuery.isEmpty then "?" ++ u.rawQuery else ""
  let frag := if u.fragment.isEmpty then "" else "#" ++ u.escapedFragment
  head ++ body ++ query ++ frag

end CampusLedger.Net
