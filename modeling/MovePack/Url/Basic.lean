/-
# URLs

A URL has a scheme, a host, a port, a path and a query; most of them may be missing.  It is absolute
if it has scheme and host.  The parts are kept as they are sent: the host in ASCII, path and query
percent-encoded.
-/
import MovePack.Domain.Name
import MovePack.Number.Numeral
import MovePack.Url.IpAddress
import MovePack.Url.Percent

namespace MovePack

/-- Why a text is no URL. -/
inductive UrlFault where
  /-- The text is too long. -/
  | tooLong
  /-- A control character stands at a position. -/
  | controlCharacter (c : CodePoint) (position : Nat)
  /-- The host looks like an address of version 4 and is none. -/
  | notVersion4 (host : Text)
  /-- The host stands in brackets and is no address of version 6. -/
  | notVersion6 (host : Text)
  /-- The host is no domain name. -/
  | notDomain (host : Text)
  /-- The port is no number. -/
  | notPort (port : Text)
  /-- The path of a URL without scheme and host begins with what would be taken for them. -/
  | ambiguousPath (beginning : Text)
  /-- A part is too long. -/
  | longPart (name : String)
deriving DecidableEq, Repr

/-- The message of a text that is no URL. -/
def UrlFault.message : UrlFault → Text
  | .tooLong => "URL too long"
  | .controlCharacter c position =>
    "Invalid non-printable ASCII character in URL, " ++ Text.quoted [c] ++ " at position "
      ++ Text.ofNat position ++ "."
  | .notVersion4 host => "Invalid IPv4 address: " ++ host.quoted
  | .notVersion6 host => "Invalid IPv6 address: " ++ host.quoted
  | .notDomain host => "Invalid IDNA hostname: " ++ host.quoted
  | .notPort port => "Invalid port: " ++ port.quoted
  | .ambiguousPath beginning =>
    "Relative URLs cannot have a path starting with '" ++ beginning ++ "'"
  | .longPart name => "URL component '" ++ Text.ofString name ++ "' too long"

/-- A URL. -/
structure Url where
  /-- The scheme, empty if there is none. -/
  scheme : Text
  /-- The host, empty if there is none. -/
  host : Text
  /-- The port. -/
  port? : Option Int
  /-- The path. -/
  path : Text
  /-- The query. -/
  query? : Option Text
deriving DecidableEq, Repr

namespace Url

/-! ## Parts of the text -/

/-- A character of a scheme: an ASCII letter or digit, or one of three signs. -/
def isSchemeCharacter : CodePoint → Bool
  | .scalar c => c.isAlphanum || c = '+' || c = '.' || c = '-'
  | .surrogate _ => false

/-- The text begins with a letter, if it is not empty. -/
def beginsWithLetter : Text → Bool
  | .scalar c :: _ => c.isAlpha
  | .surrogate _ :: _ => false
  | [] => true

/-- The scheme before the first colon, and the text after the colon; the scheme may be empty. -/
def splitScheme (t : Text) : Text × Text :=
  let scheme := t.takeWhile isSchemeCharacter
  match t.drop scheme.length with
  | .scalar ':' :: rest => if beginsWithLetter scheme then (scheme, rest) else ([], t)
  | _ => ([], t)

/-- What stands between two slashes and the path, and the text from the path on. -/
def splitAuthority (t : Text) : Text × Text :=
  match t.dropPrefix? "//" with
  | none => ([], t)
  | some rest =>
    let authority := rest.takeWhile fun c => !isOneOf "/?#" c
    (authority, rest.drop authority.length)

/-- The path, and the query after a question mark; a fragment after a number sign is left out. -/
def splitQuery (t : Text) : Text × Option Text :=
  let path := t.takeWhile fun c => !isOneOf "?#" c
  match t.drop path.length with
  | .scalar '?' :: rest => (path, some (rest.takeWhile fun c => c ≠ .scalar '#'))
  | _ => (path, none)

/-- The text up to and with the last occurrence of a character, and the text after it. -/
def splitLast (c : Char) (t : Text) : Text × Text :=
  let tail := (t.reverse.takeWhile fun x => x ≠ .scalar c).reverse
  (t.take (t.length - tail.length), tail)

/-- The host, in brackets or up to a colon, and the port after a colon. -/
def splitHost (t : Text) : Text × Text :=
  let bracketed := (splitLast ']' t).1
  let host :=
    if Text.startsWith t "[" ∧ bracketed ≠ [] then bracketed
    else t.takeWhile fun c => c ≠ .scalar ':'
  match t.drop host.length with
  | .scalar ':' :: port => (host, port)
  | port => (host, port)

/-! ## Checks of the parts -/

/-- The host as it is sent: an IP address, or a domain name in ASCII. -/
def encodeHost (host : Text) : Except UrlFault Text :=
  if host.isEmpty then .ok []
  else if IpAddress.resemblesVersion4 host then
    if IpAddress.isVersion4 host then .ok host else .error (.notVersion4 host)
  else if Text.startsWith host "[" ∧ Text.endsWith host "]" then
    let address := host.tail.dropLast
    if IpAddress.isZonedVersion6 address then .ok address else .error (.notVersion6 host)
  else if host.all CodePoint.isAscii then .ok (percentEncode isSafeInHost host.toLower)
  else (Domain.encodeName host.toLower).mapError fun _ => .notDomain host

/-- The port that a text denotes, if there is one. -/
def portOf (port : Text) : Except UrlFault (Option Int) :=
  if port.isEmpty then .ok none
  else
    match Numeral.integer? port with
    | some n => .ok (some n)
    | none => .error (.notPort port)

/-- The segments that are kept, the last one first, after one more: `.` stands for nothing, and `..`
takes the last segment back, unless it is the beginning of the path. -/
def keepSegment (kept : List Text) (segment : Text) : List Text :=
  if segment = "." then kept
  else if segment = ".." then if kept = [[]] then kept else kept.tail
  else segment :: kept

/-- The path without the segments `.` and `..` and those that are taken back. -/
def dropDots (path : Text) : Text :=
  Text.join "/" ((Text.splitAll '/' path).foldl keepSegment []).reverse

/-- The path of a URL without scheme and authority, unless it would be taken for them. -/
def checkPath (path : Text) : Except UrlFault Text :=
  if Text.startsWith path "//" then .error (.ambiguousPath "//")
  else if Text.startsWith path ":" then .error (.ambiguousPath ":")
  else .ok path

/-! ## Reading -/

/-- The largest number of characters of a URL and of each of its parts. -/
def maxLength : Nat := 65536

/-- A character of ASCII that is not shown. -/
def isControl (c : CodePoint) : Bool := c.toNat < 0x20 || c.toNat = 0x7F

/-- The URL that a text denotes, which is not too long and has no control characters. -/
def ofParts (t : Text) : Except UrlFault Url := do
  let (scheme, rest) := splitScheme t
  let (authority, rest) := splitAuthority rest
  let (path, query?) := splitQuery rest
  let (user, rest) := splitLast '@' authority
  let (host, port) := splitHost rest
  let encoded ← encodeHost host
  let port? ← portOf port
  let isRooted := !scheme.isEmpty || 1 < user.length || !encoded.isEmpty || port?.isSome
  let path ← if isRooted then pure (dropDots path) else checkPath path
  return {
    scheme := scheme.toLower
    host := encoded
    port?
    path := percentEncode isSafeInPath path
    query? := query?.map (percentEncode isSafeInQuery) }

/-- The URL that a text denotes. -/
def ofText (t : Text) : Except UrlFault Url :=
  if maxLength < t.length then .error .tooLong
  else
    match t.find? isControl with
    | some c => .error (.controlCharacter c (t.idxOf c))
    | none => ofParts t

/-- The URL has scheme and host. -/
def isAbsolute (url : Url) : Bool := !url.scheme.isEmpty && !url.host.isEmpty

/-- The host as it is named in a request: one with colons stands in brackets. -/
def namedHost (url : Url) : Text :=
  if url.host.contains (.scalar ':') then "[" ++ url.host ++ "]" else url.host

/-- The path and the query as they are sent, with one slash before them. -/
def target (url : Url) : Except UrlFault Text :=
  let query (query? : Option Text) : Text := query?.elim [] fun query => .scalar '?' :: query
  let sent := (url.path ++ query url.query?).dropWhile (· = .scalar '/')
  let (path, query?) := splitQuery (.scalar '/' :: sent)
  if maxLength < path.length then .error (.longPart "path")
  else if query?.any fun query => maxLength < query.length then .error (.longPart "query")
  else .ok (path ++ query query?)

end Url

end MovePack
