import BlockingQuery.Http.Date
import BlockingQuery.Http.Headers
import BlockingQuery.Http.Url

/-!
# Cookies

A client keeps the cookies that servers set in the fields `Set-Cookie`. `CookieJar.receive` takes up those of a
response. A cookie is known by its domain, its path and its name; one that has expired takes the cookie of the
same three away, and one for a domain or a port that the URL does not belong to is not kept.
-/

namespace BlockingQuery

open Text

/-- What a cookie is known by. -/
structure Cookie where
  domain : List Char
  path : List Char
  name : List Char
  deriving DecidableEq, Repr

namespace Cookie

/-! ## Fields -/

/-- What a field says of a cookie. An attribute without an equals sign has no value. -/
structure Attributes where
  domain : Option (List Char) := none
  path : Option (List Char) := none
  port : Option (Option (List Char)) := none
  version : Option (List Char) := none
  /-- The seconds since the beginning of 1970 when the cookie expires. -/
  expires : Option Int := none
  /-- Whether it was said how long the cookie lives. -/
  aged : Bool := false

/-- Why a cookie is not read. -/
inductive Flaw
  /-- The cookie does not count. -/
  | alone
  /-- No cookie of the response counts. -/
  | all
  deriving DecidableEq, Repr

/-- The moment by which dates are judged, in seconds since the beginning of 1970, and its year. -/
def now : Int := 1767225600

def presentYear : Nat := 2026

/-- The pieces of a field, each a name and perhaps a value. -/
def pieces (field : List Char) : List (List Char × Option (List Char)) :=
  (field.splitOn ';').map fun piece =>
    let (name, value) := Url.cut (· == '=') (trim piece)
    (trim name, value.map trim)

/-- A value without a quotation mark before it and one behind it. -/
def unquote (cs : List Char) : List Char :=
  let opened := if cs.head? == some '\x22' then cs.drop 1 else cs
  if opened.getLast? == some '\x22' then opened.dropLast else opened

/-- The moment that a value names, if it names one. Some dates that exist nowhere cannot be read at all. -/
def date (value : List Char) : Except Flaw (Option Int) :=
  (Date.seconds presentYear (unquote value)).mapError fun _ => .all

/-- What a field says with one more attribute. The first one of a name counts, but the last age. -/
def Attributes.add (a : Attributes) (name : List Char) (value : Option (List Char)) :
    Except Flaw Attributes :=
  let need (known : Bool) (take : List Char → Attributes) : Except Flaw Attributes :=
    if known then .ok a
    else match value with
      | some v => .ok (take v)
      | none => .error .alone
  match String.ofList (name.map Char.toLower) with
  | "domain" => need a.domain.isSome fun v => { a with domain := some (smalls v) }
  | "path" => need a.path.isSome fun v => { a with path := some v }
  | "version" => need a.version.isSome fun v => { a with version := some (unquote v) }
  | "port" => .ok (if a.port.isSome then a else { a with port := some value })
  | "expires" =>
    match (value.map date).getD (.ok none) with
    | .error flaw => .error flaw
    | .ok (some t) => .ok (if a.aged || a.expires.isSome then a else { a with expires := some t })
    | .ok none => .ok a
  | "max-age" =>
    match value with
    | none => .error .all
    | some v =>
      match Numeral.int? v with
      | none => .error .alone
      | some age => .ok { a with expires := some (now + age), aged := true }
  | _ => .ok a

/-- Refuses a date that cannot be read at all, wherever it stands. -/
def checkDate (name : List Char) (value : Option (List Char)) : Except Flaw Unit :=
  if name.map Char.toLower == "expires".toList then
    ((value.map date).getD (.ok none)).map fun _ => ()
  else .ok ()

/-- What pieces of a field say. -/
def readAttributes (pieces : List (List Char × Option (List Char))) : Except Flaw Attributes := do
  pieces.forM fun (name, value) => checkDate name value
  pieces.foldlM (fun a (name, value) => a.add name value) {}

/-- The name and the attributes that a field gives, if it gives a name. -/
def ofField? (field : List Char) : Option (List Char × Except Flaw Attributes) :=
  match pieces field with
  | [] | ([], _) :: _ => none
  | (name, _) :: rest => some (name, readAttributes (rest.filter fun a => !a.1.isEmpty))

/-! ## Hosts and paths -/

/-- A text without a colon and a number at its end. -/
def withoutPort (cs : List Char) : List Char :=
  let digits := (cs.reverse.takeWhile Char.isDigit).length
  let rest := cs.take (cs.length - digits)
  if 0 < digits && rest.getLast? == some ':' then rest.dropLast else cs

/-- The authority of a URL without its port. -/
def host (u : Url) : List Char :=
  (withoutPort u.authority).map Char.toLower

/-- The host, with an ending if it has no dot. -/
def effectiveHost (u : Url) : List Char :=
  if (host u).contains '.' then host u else host u ++ ".local".toList

/-- Characters that stand for themselves in the path of a cookie. -/
def isPathSafe (c : Char) : Bool :=
  Percent.isUnreserved c ||
    ['%', '/', ';', ':', '@', '&', '=', '+', '$', ',', '!', '~', '*', '\x27', '(', ')'].contains c

/-- The escapes of a text with capital digits. -/
def capitalEscapes : List Char → List Char
  | '%' :: a :: b :: cs =>
    if (Percent.hexValue? a).isSome && (Percent.hexValue? b).isSome then
      '%' :: a.toUpper :: b.toUpper :: capitalEscapes cs
    else '%' :: capitalEscapes (a :: b :: cs)
  | c :: cs => c :: capitalEscapes cs
  | [] => []

/-- A path with escapes for what needs one. -/
def escapedPath (cs : List Char) : List Char :=
  capitalEscapes (Percent.encode isPathSafe cs)

/-- The path of a cookie that gives none: that of the URL up to its last slash, which belongs to it in
versions other than zero. -/
def defaultPath (version : Int) (u : Url) : List Char :=
  let path := escapedPath u.path
  let rooted := if path.head? == some '/' then path else '/' :: path
  let directory := (rooted.reverse.dropWhile (· != '/')).reverse
  let cut := if version = 0 then directory.dropLast else directory
  if cut.isEmpty then ['/'] else cut

/-! ## Keeping -/

/-- A cookie that a response offers. -/
structure Offer where
  cookie : Cookie
  version : Int
  /-- Whether the domain was given. -/
  hasDomain : Bool
  /-- The ports, if any were given. A cookie for the port of the URL names none. -/
  port : Option (List Char)
  /-- Whether the cookie is for the port of the URL. -/
  isForOwnPort : Bool
  expires : Option Int

/-- The offer of a field, unless its version is no number. -/
def offer? (u : Url) (name : List Char) (a : Attributes) : Option Offer :=
  (Numeral.int? (a.version.getD ['0'])).map fun version =>
    let path := match a.path with
      | none | some [] => defaultPath version u
      | some p => escapedPath p
    let domain := match a.domain with
      | none => effectiveHost u
      | some d => if d.head? == some '.' then d else '.' :: d
    { cookie := { domain, path, name }, version, hasDomain := a.domain.isSome
      port := a.port.join.map fun p => p.filter fun c => !isBlank c
      isForOwnPort := a.port == some none
      expires := a.expires }

/-- Whether an offer has expired. -/
def Offer.isExpired (o : Offer) : Bool :=
  o.expires.any (· ≤ now)

/-- The greatest number of seconds that can be kept is below this one. -/
def endOfTime : Int :=
  twoTo 1024

/-- Whether an offer cannot be made: the URL names no port for it, or it would live too long. -/
def Offer.isSpoilt (o : Offer) (u : Url) : Bool :=
  (o.isForOwnPort && u.authority.isEmpty) || o.expires.any (endOfTime ≤ ·)

/-- Whether a URL belongs to the domain of an offer. -/
def Offer.fitsHost (o : Offer) (u : Url) : Bool :=
  let host := effectiveHost u
  let domain := o.cookie.domain
  let undotted := if domain.head? == some '.' then domain.drop 1 else domain
  let version : Int := if o.version = 1 then 0 else o.version
  let ends := domain.isSuffixOf host || (undotted ++ ".local".toList).isSuffixOf host ||
    host.head? == some '.' || domain.isSuffixOf ('.' :: host)
  !o.hasDomain ||
    ((undotted.contains '.' || ".local".toList.isSuffixOf host) && (version != 0 || ends))

/-- Whether the port of a URL is one of those of an offer, which are numbers with commas between them. The
first one that is no number ends the search. -/
def Offer.fitsPort (o : Offer) (u : Url) : Bool :=
  match o.port with
  | none => true
  | some ports =>
    let own := match Url.cut (· == ':') (Percent.decode u.authority).toList with
      | (_, some port) => if (Numeral.int? port).isSome then port else ['8', '0']
      | _ => ['8', '0']
    let tried := (ports.splitOn ',').takeWhile fun p => (Numeral.int? p).isSome
    tried.contains own

/-- Whether an offer is taken unless its ports are in the way. -/
def Offer.isWelcome (o : Offer) (u : Url) : Bool :=
  o.version ≤ 1 && o.fitsHost u

/-- Whether an offer is for some ports, but the URL names no server that would have one. -/
def Offer.isUndecided (o : Offer) (u : Url) : Bool :=
  o.isWelcome u && o.port.isSome && u.authority.isEmpty

/-- Whether an offer is taken. -/
def Offer.isTaken (o : Offer) (u : Url) : Bool :=
  o.isWelcome u && o.fitsPort u

end Cookie

/-- The cookies that a client keeps. -/
abbrev CookieJar := List Cookie

namespace CookieJar

/-- The offers of fields, unless one of them spoils all. -/
def offers? (u : Url) (fields : List (List Char)) : Option (List Cookie.Offer) :=
  let read := fields.filterMap Cookie.ofField?
  if read.any fun r => match r.2 with
      | .error .all => true
      | _ => false then none
  else some (read.filterMap fun (name, a) => a.toOption.bind (Cookie.offer? u name))

/-- The cookies after a response to a request for a URL, and whether all offers were decided on. An offer that
cannot be made spoils all others, but those before it that have expired take cookies away. Nothing is taken from
the first one on that cannot be decided on. -/
def receive (u : Url) (headers : Headers) (jar : CookieJar) : Bool × CookieJar :=
  let fields := headers.filterMap fun h =>
    if Headers.sameName h.1 "Set-Cookie" then some h.2.toList else none
  let offers := (offers? u fields).getD []
  let made := offers.takeWhile fun o => !o.isSpoilt u
  let kept := (made.filter (·.isExpired)).foldl (fun jar o => jar.erase o.cookie) jar
  if made.length < offers.length then (true, kept)
  else
    let fresh := offers.filter fun o => !o.isExpired
    let decided := fresh.takeWhile fun o => !o.isUndecided u
    let taken := (decided.filter (·.isTaken u)).map (·.cookie)
    (decided.length == fresh.length, taken.foldl (fun jar c => if jar.contains c then jar else jar ++ [c]) kept)

end CookieJar

end BlockingQuery
