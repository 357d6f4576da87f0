import CampusLedger.Net.Url
/-!
# Reading a request head

A request made for a test is read from the head `METHOD TARGET HTTP/1.0`, an empty method
standing for `GET`, followed by an empty line, just as a server reads a head off the wire. The
head splits into lines at line feeds, each line losing the carriage return before its line
feed, so a target that holds a line feed ends the request line early and leaves the rest for
the header lines.

The request line is the method, a space, the target, a space and the protocol. Reading refuses,
in order:

* a line without two spaces (`malformed HTTP request`);
* a method that is empty or holds a character that no token may hold (`invalid method`);
* a protocol other than `HTTP/` and a one-digit major and minor version
  (`malformed HTTP version`);
* a target that does not read as a request URL: empty, relative without a leading slash, or
  refused as any URL is. A `CONNECT` target without a leading slash is an authority alone.

The header lines run up to the first empty one. The first may not start with a blank, and is
quoted in the refusal when it does, unless it is longer than 80 octets. A line that starts with
a blank continues the one before it, joined with one space; every other line needs a colon of
its own, a key of token characters and spaces before the colon, and a value of visible
characters, blanks and octets beyond ASCII after it. A key without spaces is written in its
canonical case, each letter after a hyphen or at the start in upper case and the others in
lower case, so that keys that differ only in case name one header.

Then the head as a whole is checked:

* at most one `Host` header;
* from version 1.1 on (a version of 0.0 counts as 1.1), at most one `Transfer-Encoding`
  header, and that one `chunked` in any case;
* `Content-Length` headers that agree once blanks are trimmed, and the first a decimal number
  below 2^63.
-/

namespace CampusLedger.Http

/-- A head read: the method, the target read as a URL, and the header lines given. -/
structure Head where
  method : String
  url : Net.Url
  headers : List (String × String)
  deriving Repr

/-- Whether an octet may stand in a token: letters, digits and ``!#$%&'*+-.^_`|~``. -/
def isTokenOctet (b : UInt8) : Bool :=
  Net.isAlnum b || "!#$%&'*+-.^_`|~".toUTF8.toList.contains b

/-- Whether an octet may stand in a header value: a tab, a visible character, a space, or an
octet beyond ASCII. -/
def isValueOctet (b : UInt8) : Bool := b == 9 || (32 ≤ b && b ≠ 127)

/-- The lines of a head: pieces between line feeds, each without the carriage return before
its line feed; the piece after the last line feed is no line. -/
def headLines (bs : List UInt8) : List (List UInt8) :=
  let pieces := splitOctets 10 bs
  (pieces.dropLast).map fun l => if l.getLast? == some 13 then l.dropLast else l

def cutAt (sep : UInt8) (bs : List UInt8) : Option (List UInt8 × List UInt8) :=
  if bs.contains sep then some (bs.takeWhile (· != sep), (bs.dropWhile (· != sep)).drop 1)
  else none

/-- The major and minor version a protocol names: `HTTP/` and one digit of each. -/
def versionOf (proto : List UInt8) : Option (Nat × Nat) :=
  match proto with
  | [72, 84, 84, 80, 47, major, 46, minor] =>
    if 48 ≤ major && major ≤ 57 && 48 ≤ minor && minor ≤ 57 then
      some (major.toNat - 48, minor.toNat - 48)
    else none
  | _ => none

def isBlankOctet (b : UInt8) : Bool := b == 32 || b == 9

def trimBlankOctets (bs : List UInt8) : List UInt8 :=
  ((bs.dropWhile isBlankOctet).reverse.dropWhile isBlankOctet).reverse

/-- The longest first line quoted when it starts with a blank. -/
def quotedLineLimit : Nat := 80

/-- The canonical case of a header key: the first letter and each letter after a hyphen in
upper case, the other letters in lower case. A key with a space keeps its case. -/
def canonicalKey (k : List UInt8) : String :=
  if k.contains 32 then Text.Utf8.toText k
  else
    let step (acc : List UInt8 × Bool) (b : UInt8) : List UInt8 × Bool :=
      let c := if acc.2 && 97 ≤ b && b ≤ 122 then b - 32
        else if !acc.2 && 65 ≤ b && b ≤ 90 then b + 32 else b
      (c :: acc.1, c == 45)
    Text.Utf8.toText (k.foldl step ([], true)).1.reverse

/-- Reads one header from its line and the lines that continue it: its key and its value
without leading blanks. -/
def headerOf (line : List UInt8) (continued : List (List UInt8)) :
    Except String (String × String) := do
  if !line.contains 58 then
    throw ("malformed MIME header: missing colon: " ++ Text.quoteOctets line)
  let kv := continued.foldl (fun acc c => acc ++ [32] ++ trimBlankOctets c) (trimBlankOctets line)
  let k := kv.takeWhile (· != 58)
  let v := (kv.drop k.length).drop 1
  if k.isEmpty || !k.all (fun b => isTokenOctet b || b == 32) || !v.all isValueOctet then
    throw ("malformed MIME header line: " ++ Text.quoteOctets kv)
  pure (canonicalKey k, Text.Utf8.toText (v.dropWhile isBlankOctet))

/-- Reads the headers of lines that start with no blank, each with the lines after it that
start with one. -/
def headersOf : List (List UInt8) → Except String (List (String × String))
  | [] => pure []
  | line :: rest => do
    let continued := rest.takeWhile fun c => c.head?.any isBlankOctet
    let header ← headerOf line continued
    let more ← headersOf (rest.drop continued.length)
    pure (header :: more)
termination_by ls => ls.length
decreasing_by simp only [List.length_cons, List.length_drop]; omega

/-- The header lines of a head, up to the first empty line, read as headers. -/
def headerLines (lines : List (List UInt8)) : Except String (List (String × String)) := do
  let lines := lines.takeWhile (!·.isEmpty)
  if let some first := lines.head? then
    if first.head?.any isBlankOctet then
      if first.length > quotedLineLimit then throw "http: request too large"
      throw ("malformed MIME header initial line: " ++ Text.quoteOctets first)
  headersOf lines

def valuesOf (headers : List (String × String)) (key : String) : List String :=
  (headers.filter (·.1 == key)).map (·.2)

/-- A list of texts, each quoted, between brackets and separated by spaces. -/
def quoteList (vs : List String) : String := "[" ++ " ".intercalate (vs.map Text.quote) ++ "]"

/-- A text without the spaces, tabs, carriage returns and line feeds at either end. -/
def trimLineSpace (s : String) : String :=
  let isSpace (c : Char) : Bool := c == ' ' || c == '\t' || c == '\n' || c == '\r'
  String.ofList ((s.toList.dropWhile isSpace).reverse.dropWhile isSpace).reverse

/-- Whether a text is a decimal number below 2^63. -/
def isContentLength (s : String) : Bool :=
  !s.isEmpty && s.all Char.isDigit &&
    s.foldl (fun n c => n * 10 + (c.toNat - 48)) 0 < Nat.pow 2 63

/-- Checks what the headers of a head say about its body: the transfer encoding from version
1.1 on, then the content lengths. -/
def checkBody (version : Nat × Nat) (headers : List (String × String)) : Except String Unit := do
  let (major, minor) := if version == (0, 0) then (1, 1) else version
  let encodings := valuesOf headers "Transfer-Encoding"
  if !encodings.isEmpty && (major > 1 || (major == 1 && minor ≥ 1)) then
    match encodings with
    | [e] =>
      if e.toLower != "chunked" then
        throw ("unsupported transfer encoding: " ++ Text.quote e)
    | _ => throw ("too many transfer encodings: " ++ quoteList encodings)
  let lengths := valuesOf headers "Content-Length"
  if let some first := lengths.head? then
    if lengths.any (trimLineSpace · != trimLineSpace first) then
      throw ("http: message cannot contain multiple Content-Length headers; got " ++
        quoteList lengths)
    let n := trimLineSpace first
    if n.isEmpty then throw ("invalid empty Content-Length " ++ Text.quote n)
    if !isContentLength n then throw ("bad Content-Length " ++ Text.quote n)

/-- Reads the head of a test request for a method and a target; the error is the reason the
head was refused. -/
def readHead (method target : String) : Except String Head := do
  let m := if method.isEmpty then "GET" else method
  let lines := headLines (m ++ " " ++ target ++ " HTTP/1.0\r\n\r\n").toUTF8.toList
  let first := lines.headD []
  let malformed := "malformed HTTP request " ++ Text.quoteOctets first
  let (meth, rest) ← match cutAt 32 first with
    | some r => pure r
    | none => throw malformed
  let (uri, proto) ← match cutAt 32 rest with
    | some r => pure r
    | none => throw malformed
  if meth.isEmpty || !meth.all isTokenOctet then
    throw ("invalid method " ++ Text.quoteOctets meth)
  let version ← match versionOf proto with
    | some v => pure v
    | none => throw ("malformed HTTP version " ++ Text.quoteOctets proto)
  let meth := Text.Utf8.toText meth
  let authorityOnly := meth == "CONNECT" && uri.head? != some 47
  let raw := (if authorityOnly then "http://" else "") ++ Text.Utf8.toText uri
  let url ← (Net.Url.parseRequest raw).mapError (·.message)
  let url := if authorityOnly then { url with scheme := "" } else url
  let headers ← headerLines (lines.drop 1)
  if (valuesOf headers "Host").length > 1 then throw "too many Host headers"
  checkBody version headers
  pure { method := meth, url, headers := headers.filter (·.1 != "Host") }

/-- The target a router sees for a read URL: the path as sent, and the query after a `?` when
there is one. -/
def Head.target (h : Head) : String :=
  Text.Utf8.toText h.url.rawPath ++
    (if h.url.forceQuery || !h.url.rawQuery.isEmpty then "?" ++ h.url.rawQuery else "")

end CampusLedger.Http
