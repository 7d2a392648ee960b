import BlockingQuery.Http.Address
import BlockingQuery.Http.DomainName
import BlockingQuery.Http.Percent
import BlockingQuery.Number.Numeral
import BlockingQuery.Text.LetterCase

/-!
# URLs

`Url.parse` reads a URL and brings it into its normal form: scheme and host name in small letters, the
default port of the scheme left out, dot segments resolved, and escapes for all characters that may not
stand in a part. `Url.toChars` writes it. `withHost`, `withEndpoint`, `withRawPath`, `withQuery` and
`withFragment` replace a part and normalise again.
-/

namespace BlockingQuery

open Text

/-- A URL in normal form. The host of an IPv6 address is without brackets. -/
structure Url where
  scheme : List Char
  userinfo : List Char
  host : List Char
  port : Option Int
  path : List Char
  query : Option (List Char)
  fragment : Option (List Char)
  deriving DecidableEq, Repr

namespace Url

/-- Why a text is no URL. -/
inductive Fault
  | tooLong
  | controlCharacter (c : Char) (position : Nat)
  | malformedPort (port : List Char)
  | malformedIpv4 (host : List Char)
  | malformedIpv6 (host : List Char)
  | unencodableHost (host : List Char)
  /-- The path does not begin with a slash, though an authority precedes it. -/
  | unrootedPath
  /-- The path begins with two slashes, like an authority. -/
  | pathLikeAuthority
  /-- The path begins with a colon, as behind a scheme. -/
  | pathLikeScheme
  | malformedAuthority
  deriving DecidableEq, Repr

/-- A text inside quotation marks. -/
def quotedChars (cs : List Char) : String :=
  quoted (String.ofList cs)

def Fault.message : Fault → String
  | .tooLong => "URL too long"
  | .controlCharacter c i =>
    s!"Invalid non-printable ASCII character in URL, {quotedChars [c]} at position {i}."
  | .malformedPort port => s!"Invalid port: {quotedChars port}"
  | .malformedIpv4 host => s!"Invalid IPv4 address: {quotedChars host}"
  | .malformedIpv6 host => s!"Invalid IPv6 address: {quotedChars host}"
  | .unencodableHost host => s!"Invalid IDNA hostname: {quotedChars host}"
  | .unrootedPath => "For absolute URLs, path must be empty or begin with '/'"
  | .pathLikeAuthority => "Relative URLs cannot have a path starting with '//'"
  | .pathLikeScheme => "Relative URLs cannot have a path starting with ':'"
  | .malformedAuthority => "Invalid URL component 'authority'"

/-- The parts of a URL as they were written. -/
structure Parts where
  scheme : List Char
  userinfo : List Char
  host : List Char
  port : List Char
  path : List Char
  query : Option (List Char)
  fragment : Option (List Char)

/-- The longest text that a URL, or a part of one, may be. -/
def lengthLimit : Nat := 65536

/-- The control characters of ASCII. -/
def isControl (c : Char) : Bool :=
  c.toNat < 0x20 || c.toNat == 0x7F

/-- Refuses a text that is too long or holds a control character. -/
def check (cs : List Char) : Except Fault Unit :=
  if lengthLimit < cs.length then .error .tooLong
  else match cs.find? isControl with
    | some c => .error (.controlCharacter c (cs.idxOf c))
    | none => .ok ()

/-! ## Taking a text apart -/

/-- What precedes the first character of a class, and what follows it, if there is one. -/
def cut (stop : Char → Bool) (cs : List Char) : List Char × Option (List Char) :=
  match cs.dropWhile fun c => !stop c with
  | [] => (cs, none)
  | _ :: rest => (cs.takeWhile fun c => !stop c, some rest)

/-- The scheme before the first colon, if what stands there can be one. -/
def splitScheme (cs : List Char) : List Char × List Char :=
  match cut (· == ':') cs with
  | (scheme, some rest) =>
    let isName := match scheme with
      | [] => true
      | c :: more => c.isAlpha && more.all fun c => c.isAlphanum || c == '+' || c == '.' || c == '-'
    if isName then (scheme, rest) else ([], cs)
  | (_, none) => ([], cs)

/-- The authority after two slashes. -/
def splitAuthority : List Char → List Char × List Char
  | '/' :: '/' :: cs =>
    (cs.takeWhile fun c => c != '/' && c != '?' && c != '#',
      cs.dropWhile fun c => c != '/' && c != '?' && c != '#')
  | cs => ([], cs)

/-- What precedes the last character `mark`, if there is one, and what follows it. -/
def cutLast (mark : Char) (cs : List Char) : Option (List Char) × List Char :=
  match cut (· == mark) cs.reverse with
  | (after, some before) => (some before.reverse, after.reverse)
  | (all, none) => (none, all.reverse)

/-- The host, in brackets or up to a colon, and the text of the port behind it. -/
def splitHost (cs : List Char) : List Char × List Char :=
  let (host, rest) := match cs.head?, cutLast ']' cs with
    | some '[', (some inner, rest) => (inner ++ [']'], rest)
    | _, _ => (cs.takeWhile fun c => c != ':' && c != '@', cs.dropWhile fun c => c != ':' && c != '@')
  (host, match rest with
    | ':' :: port => port
    | port => port)

/-- The parts of a text. -/
def split (cs : List Char) : Parts :=
  let (scheme, rest) := splitScheme cs
  let (authority, rest) := splitAuthority rest
  let (rest, fragment) := cut (· == '#') rest
  let (path, query) := cut (· == '?') rest
  let (userinfo, endpoint) := cutLast '@' authority
  let (host, port) := splitHost endpoint
  { scheme, userinfo := userinfo.getD [], host, port, path, query, fragment }

/-! ## Normal forms of the parts -/

/-- Visible ASCII characters other than some. -/
def isVisibleBut (others : List Char) (c : Char) : Bool :=
  0x20 < c.toNat && c.toNat < 0x7F && !others.contains c

def isPathSafe : Char → Bool :=
  isVisibleBut ['\x22', '#', '<', '>', '?', '\x60', '{', '}']

def isQuerySafe : Char → Bool :=
  isVisibleBut ['\x22', '#', '<', '>']

def isFragmentSafe : Char → Bool :=
  isVisibleBut ['\x22', '<', '>', '\x60']

def isUserinfoSafe : Char → Bool :=
  isVisibleBut ['\x22', '#', '<', '>', '?', '\x60', '{', '}', '/', ';', '=', '@', '[', '\\', ']', '^', '|']

/-- Characters of a host name that stand for themselves. -/
def isHostSafe (c : Char) : Bool :=
  Percent.isUnreserved c ||
    ['!', '$', '&', '\x27', '(', ')', '*', '+', ',', ';', '=', '\x22', '\x60', '{', '}', '%', '|', '\\'].contains c

/-- The ports that go without saying, by scheme. -/
def defaultPorts : List (String × Int) :=
  [("ftp", 21), ("http", 80), ("https", 443), ("ws", 80), ("wss", 443)]

/-- A host: an address, which has to be a correct one, or a name in small letters and as it is sent. -/
def normalHost (cs : List Char) : Except Fault (List Char) :=
  let inner := (cs.drop 1).dropLast
  if cs.isEmpty then .ok []
  else if Address.looksLikeIpv4 cs then
    if Address.isIpv4 cs then .ok cs else .error (.malformedIpv4 cs)
  else if cs.head? == some '[' && cs.getLast? == some ']' && 2 ≤ cs.length then
    if Address.isIpv6 inner then .ok inner else .error (.malformedIpv6 cs)
  else if cs.all fun c => c.toNat < 0x80 then
    .ok (Percent.encode isHostSafe (cs.map Char.toLower))
  else match DomainName.encode (smalls cs) with
    | .ok name => .ok name
    | .error _ => .error (.unencodableHost cs)

/-- A port, left out if it is empty or the default one of the scheme as written. -/
def normalPort (scheme port : List Char) : Except Fault (Option Int) :=
  if port.isEmpty then .ok none
  else match Numeral.int? port with
    | none => .error (.malformedPort port)
    | some n => .ok (if defaultPorts.lookup (String.ofList scheme) == some n then none else some n)

/-- The segments after one more: a single dot is dropped, two dots take the last segment away, but not
the empty one before a leading slash. Segments are given last first. -/
def pushSegment (before : List (List Char)) (segment : List Char) : List (List Char) :=
  if segment = ['.'] then before
  else if segment = ['.', '.'] then (if before = [] ∨ before = [[]] then before else before.tail)
  else segment :: before

/-- The path without dot segments. -/
def resolveDots (path : List Char) : List Char :=
  let segments := path.splitOn '/'
  if segments.any fun s => s == ['.'] || s == ['.', '.'] then
    ['/'].intercalate (segments.foldl pushSegment []).reverse
  else path

/-- A path has to fit what stands before it, or it would be read back as something else. -/
def checkPath (hasScheme hasAuthority : Bool) (path : List Char) : Except Fault Unit :=
  if hasAuthority && !path.isEmpty && path.head? != some '/' then .error .unrootedPath
  else if hasScheme || hasAuthority then .ok ()
  else if path.take 2 == ['/', '/'] then .error .pathLikeAuthority
  else if path.head? == some ':' then .error .pathLikeScheme
  else .ok ()

/-- The normal form of parts. -/
def ofParts (p : Parts) : Except Fault Url := do
  let scheme := p.scheme.map Char.toLower
  let userinfo := Percent.encode isUserinfoSafe p.userinfo
  let host ← normalHost p.host
  let port ← normalPort p.scheme p.port
  let hasScheme := !scheme.isEmpty
  let hasAuthority := !userinfo.isEmpty || !host.isEmpty || port.isSome
  checkPath hasScheme hasAuthority p.path
  let path := if hasScheme || hasAuthority then resolveDots p.path else p.path
  return {
    scheme, userinfo, host, port
    path := Percent.encode isPathSafe path
    query := p.query.map (Percent.encode isQuerySafe)
    fragment := p.fragment.map (Percent.encode isFragmentSafe) }

/-- Reads a URL. -/
def parse (cs : List Char) : Except Fault Url := do
  check cs
  ofParts (split cs)

/-! ## Writing -/

/-- The host as it stands in a URL, an IPv6 address in brackets. -/
def writtenHost (u : Url) : List Char :=
  if u.host.contains ':' then '[' :: u.host ++ [']'] else u.host

/-- The port as it stands in a URL, with its colon. -/
def writtenPort (u : Url) : List Char :=
  match u.port with
  | some n => ':' :: decimal n
  | none => []

/-- Host and port, the text of a `Host` header. -/
def endpoint (u : Url) : List Char :=
  u.writtenHost ++ u.writtenPort

/-- User information, host and port. -/
def authority (u : Url) : List Char :=
  (if u.userinfo.isEmpty then [] else u.userinfo ++ ['@']) ++ u.endpoint

/-- The text of a URL. -/
def toChars (u : Url) : List Char :=
  (if u.scheme.isEmpty then [] else u.scheme ++ [':']) ++
    (if u.authority.isEmpty then [] else '/' :: '/' :: u.authority) ++ u.path ++
    (match u.query with
      | some q => '?' :: q
      | none => []) ++
    (match u.fragment with
      | some f => '#' :: f
      | none => [])

def toString (u : Url) : String :=
  String.ofList u.toChars

/-- Whether a URL names both how and where. -/
def isAbsolute (u : Url) : Bool :=
  !u.scheme.isEmpty && !u.host.isEmpty

/-- The path, which is a slash if it is empty, and the query: what a request names. -/
def rawPath (u : Url) : List Char :=
  (if u.path.isEmpty then ['/'] else u.path) ++
    match u.query with
    | some q => '?' :: q
    | none => []

/-- The host as it is read: a domain name that begins in punycode is decoded. -/
def hostName (u : Url) : Except DomainName.Fault (List Char) :=
  if DomainName.mark.isPrefixOf u.host then
    (DomainName.decode u.host).map fun name => name.toString.toList
  else .ok u.host

/-! ## Replacing parts -/

/-- The parts of a URL, to be changed and normalised again. -/
def parts (u : Url) : Parts :=
  { scheme := u.scheme, userinfo := u.userinfo, host := u.writtenHost, port := u.writtenPort.drop 1,
    path := u.path, query := u.query, fragment := u.fragment }

/-- Normalises the parts of a URL of which some were replaced. The parts that stay are checked as well. -/
def rebuild (u : Url) (change : Parts → Parts) : Except Fault Url := do
  let p := change u.parts
  check u.authority
  if u.authority.any fun c => c == '/' || c == '?' || c == '#' then .error .malformedAuthority
  check p.path
  check (p.query.getD [])
  check (p.fragment.getD [])
  check p.host
  ofParts p

/-- A host as it is to stand in a URL. One with a colon is an IPv6 address, with or without brackets. -/
def bracketed (host : List Char) : List Char :=
  if host.contains ':' && !(host.head? == some '[' && host.getLast? == some ']') then '[' :: host ++ [']']
  else host

/-- The URL with another host. -/
def withHost (u : Url) (host : List Char) : Except Fault Url :=
  u.rebuild fun p => { p with host := bracketed host }

/-- The URL with another host and port. -/
def withEndpoint (u : Url) (host : List Char) (port : Int) : Except Fault Url :=
  u.rebuild fun p => { p with host := bracketed host, port := decimal port }

/-- The URL with another path and query, given as one text. -/
def withRawPath (u : Url) (raw : List Char) : Except Fault Url :=
  let (path, query) := cut (· == '?') raw
  u.rebuild fun p => { p with path, query }

/-- The URL with another query. -/
def withQuery (u : Url) (query : Option (List Char)) : Except Fault Url :=
  u.rebuild fun p => { p with query }

/-- The URL with another fragment. -/
def withFragment (u : Url) (fragment : List Char) : Except Fault Url :=
  u.rebuild fun p => { p with fragment := some fragment }

end Url

end BlockingQuery
