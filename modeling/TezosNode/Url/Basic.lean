import TezosNode.Number.Numeral
import TezosNode.Url.Address
import TezosNode.Url.Domain

set_option autoImplicit false

/-!
# URL: parts and reading

A URL as its parts, each in the form in which it is sent: scheme and host in lower
case, the port left out where it is the usual one of the scheme, the path without
`.` and `..`, and every part percent-encoded.

`parse` splits a text at the marks of RFC 3986 and brings each part into its form;
`withQuery` puts a new query in place, for which the other parts go through the same
steps again.
-/

namespace TezosNode

/-- A URL in the form in which it is sent. -/
structure Url where
  scheme : List Char
  userInfo : List Char
  host : List Char
  port : Option Int
  path : List Char
  query : Option (List Char)
  fragment : Option (List Char)
  deriving DecidableEq, Repr, Inhabited

namespace Url

/-- The greatest length of a URL and of each of its parts. -/
def maxLength : Nat := 65536

/-! ## Faults -/

/-- The parts that are checked for their length. -/
inductive Part where
  | scheme
  | authority
  | path
  | query
  | fragment
  deriving DecidableEq, Repr, Inhabited

/-- The name of a part. -/
def Part.name : Part → String
  | .scheme => "scheme"
  | .authority => "authority"
  | .path => "path"
  | .query => "query"
  | .fragment => "fragment"

/-- Why a text is no URL. -/
inductive Fault where
  | tooLong
  | partTooLong (part : Part)
  /-- a control character of ASCII and its place -/
  | unprintable (c : Char) (position : Nat)
  | ipv4 (host : List Char)
  | ipv6 (host : List Char)
  /-- a name with characters beyond ASCII that has no form in ASCII -/
  | hostName (host : List Char)
  | port (text : List Char)
  /-- a path after an authority that begins with no slash -/
  | detachedPath
  /-- a path without scheme and authority that would be read as an authority -/
  | doubleSlash
  /-- a path without scheme and authority that would be read as a scheme -/
  | leadingColon
  deriving DecidableEq, Repr, Inhabited

/-- A text in quotes. -/
def shown (text : List Char) : String := String.ofList (Text.Quoted.render text)

/-- The wording of a fault. -/
def Fault.message : Fault → String
  | .tooLong => "URL too long"
  | .partTooLong part => "URL component '" ++ part.name ++ "' too long"
  | .unprintable c position =>
    "Invalid non-printable ASCII character in URL, " ++ shown [c] ++ " at position "
      ++ toString position ++ "."
  | .ipv4 host => "Invalid IPv4 address: " ++ shown host
  | .ipv6 host => "Invalid IPv6 address: " ++ shown host
  | .hostName host => "Invalid IDNA hostname: " ++ shown host
  | .port text => "Invalid port: " ++ shown text
  | .detachedPath => "For absolute URLs, path must be empty or begin with '/'"
  | .doubleSlash => "Relative URLs cannot have a path starting with '//'"
  | .leadingColon => "Relative URLs cannot have a path starting with ':'"

/-! ## Splitting -/

/-- The parts of a text between the marks that separate them. -/
structure Parts where
  scheme : List Char
  authority : List Char
  path : List Char
  query : Option (List Char)
  fragment : Option (List Char)
  deriving DecidableEq, Repr, Inhabited

/-- Whether a scheme may have a character after its first letter. -/
def inScheme (c : Char) : Bool := isAsciiAlnum c || c = '+' || c = '.' || c = '-'

/-- A scheme before a colon, and the text after it.  An empty scheme may have its
colon, too. -/
def splitScheme (text : List Char) : List Char × List Char :=
  match text with
  | ':' :: rest => ([], rest)
  | c :: _ =>
    match text.dropWhile inScheme with
    | ':' :: rest => if c.isAlpha then (text.takeWhile inScheme, rest) else ([], text)
    | _ => ([], text)
  | [] => ([], [])

/-- Whether a character ends the authority. -/
def endsAuthority (c : Char) : Bool := c = '/' || c = '?' || c = '#'

/-- An authority after two slashes, and the text after it. -/
def splitAuthority (text : List Char) : List Char × List Char :=
  match text with
  | '/' :: '/' :: rest =>
    (rest.takeWhile (!endsAuthority ·), rest.dropWhile (!endsAuthority ·))
  | _ => ([], text)

/-- A path, and the query and the fragment after it. -/
def splitPath (text : List Char) : List Char × Option (List Char) × Option (List Char) :=
  let path := text.takeWhile fun c => c != '?' && c != '#'
  match text.drop path.length with
  | '?' :: rest =>
    let query := rest.takeWhile (· != '#')
    match rest.drop query.length with
    | _ :: fragment => (path, some query, some fragment)
    | [] => (path, some query, none)
  | _ :: fragment => (path, none, some fragment)
  | [] => (path, none, none)

/-- Splits a text into parts. -/
def split (text : List Char) : Parts :=
  let (scheme, rest) := splitScheme text
  let (authority, rest) := splitAuthority rest
  let (path, query, fragment) := splitPath rest
  ⟨scheme, authority, path, query, fragment⟩

/-- The text before the last `@`, if there is one, and the text after it. -/
def splitUserInfo (authority : List Char) : List Char × List Char :=
  let rest := (authority.reverse.takeWhile (· != '@')).reverse
  (authority.take (authority.length - rest.length - 1), rest)

/-- A host, which may be in brackets, and the text after it. -/
def splitHost (text : List Char) : List Char × List Char :=
  let plain := (text.takeWhile (· != ':'), text.dropWhile (· != ':'))
  match text with
  | '[' :: _ =>
    let rest := (text.reverse.takeWhile (· != ']')).reverse
    let bracketed := text.take (text.length - rest.length)
    if bracketed.isEmpty then plain else (bracketed, rest)
  | _ => plain

/-- A text without one colon at its start. -/
def dropColon : List Char → List Char
  | ':' :: rest => rest
  | text => text

/-! ## The form of each part -/

/-- The port that a scheme uses without naming it. -/
def defaultPort? (scheme : List Char) : Option Int :=
  match String.ofList scheme with
  | "ftp" => some 21
  | "http" => some 80
  | "https" => some 443
  | "ws" => some 80
  | "wss" => some 443
  | _ => none

/-- A port as a number; none for no port and for the usual one of the scheme. -/
def normalPort (text scheme : List Char) : Except Fault (Option Int) :=
  if text.isEmpty then .ok none
  else
    match Numeral.integer text with
    | .error _ => .error (.port text)
    | .ok n => .ok (if defaultPort? scheme = some n then none else some n)

/-- A host in the form in which it is sent; an address of version 6 loses its brackets, and a name
with characters beyond ASCII is sent in ASCII. -/
def normalHost (host : List Char) : Except Fault (List Char) :=
  if looksLikeIpv4 host then
    if isIpv4 host then .ok host else .error (.ipv4 host)
  else if host.head? = some '[' ∧ host.getLast? = some ']' then
    let address := (host.drop 1).dropLast
    if isIpv6 address then .ok address else .error (.ipv6 host)
  else if host.all fun c => c.toNat < 0x80 then
    .ok (percentEncode inHost (host.map Char.toLower))
  else
    match Domain.encode? host with
    | some name => .ok name
    | none => .error (.hostName host)

/-- The segments of a path, latest first, after one more: `.` adds nothing and `..`
takes the latest away, but never the empty one that stands for the root. -/
def addSegment (segments : List (List Char)) (segment : List Char) : List (List Char) :=
  if segment = ['.'] then segments
  else if segment = ['.', '.'] then
    if segments = [[]] then segments else segments.drop 1
  else segment :: segments

/-- A path without `.` and `..`. -/
def resolveDots (path : List Char) : List Char :=
  let segments := path.splitOn '/'
  if segments.contains ['.'] || segments.contains ['.', '.'] then
    ['/'].intercalate (segments.foldl addSegment []).reverse
  else path

/-- Checks that a path cannot be taken for another part. -/
def checkPath (path : List Char) (hasScheme hasAuthority : Bool) : Except Fault Unit :=
  if hasAuthority then
    if path = [] ∨ path.head? = some '/' then .ok () else .error .detachedPath
  else if hasScheme then .ok ()
  else if ['/', '/'].isPrefixOf path then .error .doubleSlash
  else if path.head? = some ':' then .error .leadingColon
  else .ok ()

/-- Brings parts into the form in which they are sent. -/
def ofParts (p : Parts) : Except Fault Url := do
  let (userInfo, rest) := splitUserInfo p.authority
  let (hostText, rest) := splitHost rest
  let host ← normalHost hostText
  let port ← normalPort (dropColon rest) p.scheme
  let hasScheme := !p.scheme.isEmpty
  let hasAuthority := !userInfo.isEmpty || !host.isEmpty || port.isSome
  checkPath p.path hasScheme hasAuthority
  let path := if hasScheme || hasAuthority then resolveDots p.path else p.path
  return {
    scheme := p.scheme.map Char.toLower
    userInfo := percentEncode inUserInfo userInfo
    host := host
    port := port
    path := percentEncode inPath path
    query := p.query.map (percentEncode inQuery)
    fragment := p.fragment.map (percentEncode inFragment) }

/-! ## Reading -/

/-- Whether a character is a control character of ASCII. -/
def isControl (c : Char) : Bool := c.toNat < 0x20 || c.toNat == 0x7F

/-- Checks that a text has no control characters. -/
def checkPrintable (text : List Char) : Except Fault Unit :=
  match text.dropWhile (!isControl ·) with
  | c :: _ => .error (.unprintable c (text.takeWhile (!isControl ·)).length)
  | [] => .ok ()

/-- Reads a URL. -/
def parse (text : List Char) : Except Fault Url := do
  if maxLength < text.length then .error .tooLong
  checkPrintable text
  ofParts (split text)

/-! ## Writing -/

/-- The host as it stands in a text: an address of version 6 has brackets. -/
def hostText (u : Url) : List Char :=
  if u.host.contains ':' then '[' :: u.host ++ [']'] else u.host

/-- The port after a colon, if there is one. -/
def portText (u : Url) : List Char :=
  match u.port with
  | some n => ':' :: (toString n).toList
  | none => []

/-- The host and the port. -/
def netloc (u : Url) : List Char := u.hostText ++ u.portText

/-- The user information, the host and the port. -/
def authority (u : Url) : List Char :=
  (if u.userInfo.isEmpty then [] else u.userInfo ++ ['@']) ++ u.netloc

/-- A part after its mark, if there is one. -/
def marked (mark : Char) : Option (List Char) → List Char
  | some text => mark :: text
  | none => []

/-- A URL as text. -/
def render (u : Url) : List Char :=
  (if u.scheme.isEmpty then [] else u.scheme ++ [':'])
    ++ (if u.authority.isEmpty then [] else '/' :: '/' :: u.authority)
    ++ u.path ++ marked '?' u.query ++ marked '#' u.fragment

/-- The value of the header that names the host; none without a host. -/
def hostHeader? (u : Url) : Option (List Char) :=
  if u.host.isEmpty then none else some u.netloc

/-- The path as text; an empty path is the root. -/
def decodedPath (u : Url) : List Char :=
  percentDecode (if u.path.isEmpty then ['/'] else u.path)

/-- The query as it is sent. -/
def queryText (u : Url) : List Char := u.query.getD []

/-! ## Changing the query -/

/-- Checks the length of a part. -/
def checkLength (part : Part) (text : List Char) : Except Fault Unit :=
  if maxLength < text.length then .error (.partTooLong part) else .ok ()

/-- A URL with another query.  The other parts are read again from the form in which
they are sent. -/
def withQuery (u : Url) (query : List Char) : Except Fault Url := do
  checkLength .scheme u.scheme
  checkLength .authority u.authority
  checkLength .path u.path
  checkLength .query query
  checkLength .fragment (u.fragment.getD [])
  ofParts ⟨u.scheme, u.authority, u.path, some query, u.fragment⟩

end Url

end TezosNode
