import BlockingQuery.Http.Url

/-!
# Relative references

A URL may be given relative to another one: what it leaves out is that of the other. `Url.join` resolves such a
reference. Only URLs of some schemes are given in this way, and those of other schemes stand for themselves.
-/

namespace BlockingQuery

/-- The parts of the text of a URL that a reference may leave out. -/
structure Reference where
  scheme : List Char
  authority : List Char
  path : List Char
  /-- What follows a semicolon in the last segment of the path. -/
  parameters : List Char
  query : List Char
  fragment : List Char
  deriving DecidableEq, Repr

namespace Reference

/-- Schemes whose URLs may be relative to each other. -/
def relativeSchemes : List String :=
  ["", "ftp", "http", "gopher", "nntp", "imap", "wais", "file", "https", "shttp", "mms", "prospero", "rtsp",
    "rtsps", "rtspu", "sftp", "svn", "svn+ssh", "ws", "wss"]

/-- Schemes whose URLs have an authority. -/
def authoritySchemes : List String :=
  ["", "ftp", "http", "gopher", "nntp", "telnet", "imap", "wais", "file", "mms", "https", "shttp", "snews",
    "prospero", "rtsp", "rtsps", "rtspu", "rsync", "svn", "svn+ssh", "sftp", "nfs", "git", "git+ssh", "ws",
    "wss"]

/-- Schemes whose URLs have parameters in the last segment of the path. -/
def parameterSchemes : List String :=
  ["", "ftp", "hdl", "prospero", "http", "imap", "https", "shttp", "rtsp", "rtsps", "rtspu", "sip", "sips",
    "mms", "sftp", "tel"]

/-- Whether a scheme is one of a list. -/
def among (schemes : List String) (scheme : List Char) : Bool :=
  schemes.contains (String.ofList scheme)

/-- A scheme and what follows its colon, if a text begins with one. -/
def scheme? (cs : List Char) : Option (List Char × List Char) :=
  match Url.cut (· == ':') cs with
  | (name, some rest) =>
    if name.head?.any Char.isAlpha &&
        name.all fun c => c.isAlphanum || c == '+' || c == '-' || c == '.' then
      some (name.map Char.toLower, rest)
    else none
  | _ => none

/-- A path without the parameters of its last segment, and these. -/
def cutParameters (path : List Char) : List Char × List Char :=
  let last := (path.reverse.takeWhile (· != '/')).reverse
  let before := path.take (path.length - last.length)
  match Url.cut (· == ';') last with
  | (segment, parameters) => (before ++ segment, parameters.getD [])

/-- The parts of a text, the scheme being `otherwise` if none is given. -/
def ofChars (otherwise cs : List Char) : Reference :=
  let (scheme, rest) := (scheme? cs).getD (otherwise, cs)
  let (authority, rest) := Url.splitAuthority rest
  let (rest, fragment) := Url.cut (· == '#') rest
  let (rest, query) := Url.cut (· == '?') rest
  let (path, parameters) := if among parameterSchemes scheme then cutParameters rest else (rest, [])
  { scheme, authority, path, parameters, query := query.getD [], fragment := fragment.getD [] }

/-- The text of the parts. -/
def toChars (r : Reference) : List Char :=
  let path := if r.parameters.isEmpty then r.path else r.path ++ ';' :: r.parameters
  let hasAuthority := !r.authority.isEmpty ||
    (!r.scheme.isEmpty && among authoritySchemes r.scheme) || path.take 2 == ['/', '/']
  let rooted := if path.isEmpty || path.head? == some '/' then path else '/' :: path
  (if r.scheme.isEmpty then [] else r.scheme ++ [':']) ++
    (if hasAuthority then '/' :: '/' :: r.authority ++ rooted else path) ++
    (if r.query.isEmpty then [] else '?' :: r.query) ++
    (if r.fragment.isEmpty then [] else '#' :: r.fragment)

/-- The segments after one more: a single dot is dropped, and two dots take the last segment away. Segments are
given last first. -/
def pushSegment (before : List (List Char)) (segment : List Char) : List (List Char) :=
  if segment = ['.'] then before
  else if segment = ['.', '.'] then before.tail
  else segment :: before

/-- The segments of a path behind those of a base, of which the last one does not count unless it is empty. Of
the segments between the first one and the last one the empty ones are dropped. -/
def segmentsBehind (base path : List Char) : List (List Char) :=
  let kept := base.splitOn '/'
  let kept := if kept.getLast? == some [] then kept else kept.dropLast
  let all := kept ++ path.splitOn '/'
  all.take 1 ++ ((all.drop 1).dropLast.filter fun s => !s.isEmpty) ++ (all.drop 1).getLast?.toList

/-- The path that a path leads to from a base. -/
def resolvePath (base path : List Char) : List Char :=
  let segments := if path.head? == some '/' then path.splitOn '/' else segmentsBehind base path
  let resolved := (segments.foldl pushSegment []).reverse
  let last := segments.getLastD []
  let closed := if last = ['.'] ∨ last = ['.', '.'] then resolved ++ [[]] else resolved
  let joined := ['/'].intercalate closed
  if joined.isEmpty then ['/'] else joined

/-- The text that a reference stands for, given relative to a base. -/
def resolve (base reference : List Char) : List Char :=
  if base.isEmpty then reference
  else if reference.isEmpty then base
  else
    let b := ofChars [] base
    let r := ofChars b.scheme reference
    if r.scheme ≠ b.scheme ∨ !among relativeSchemes r.scheme then reference
    else if among authoritySchemes r.scheme && !r.authority.isEmpty then r.toChars
    else
      let r := if among authoritySchemes r.scheme then { r with authority := b.authority } else r
      if r.path.isEmpty && r.parameters.isEmpty then
        toChars { r with path := b.path, parameters := b.parameters,
                         query := if r.query.isEmpty then b.query else r.query }
      else toChars { r with path := resolvePath b.path r.path }

end Reference

namespace Url

/-- The URL that a reference stands for, given relative to a URL. -/
def join (base reference : Url) : Except Fault Url :=
  parse (Reference.resolve base.toChars reference.toChars)

end Url

end BlockingQuery
