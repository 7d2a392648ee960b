import BlockingQuery.Http.Url

/-!
# Targets

A `Target` is an endpoint that may serve a request: a host and a port. `Target.parse` reads `host`,
`host:port` and `[host]:port`, `Target.toString` writes the last two, and `Target.ofUrl` is the target
that a URL leads to.
-/

namespace BlockingQuery

open Text

/-- A host and a port. -/
structure Target where
  host : String
  port : Int
  deriving DecidableEq, Repr

namespace Target

/-- The port of a target that names none. -/
def defaultPort : Int := 8500

/-- Why a text or a URL names no target. -/
inductive Fault
  | blank
  | malformed (text : String)
  | malformedPort (text : String)
  | portOutOfRange (text : String)
  | noHost (url : String)
  /-- The host of a URL cannot be read. -/
  | unreadableHost (f : DomainName.Fault)
  deriving DecidableEq, Repr

def Fault.message : Fault → String
  | .blank => "Target must not be empty"
  | .malformed text => s!"Invalid target: {text}"
  | .malformedPort text => s!"Invalid port in target: {text}"
  | .portOutOfRange text => s!"Port out of range in target: {text}"
  | .noHost url => s!"URL has no host: {url}"
  | .unreadableHost f => f.message

/-- The port that a text writes, the whole target being `text`. -/
def parsePort (port : List Char) (text : String) : Except Fault Int :=
  match Numeral.int? port with
  | none => .error (.malformedPort text)
  | some n => if 0 < n ∧ n < 65536 then .ok n else .error (.portOutOfRange text)

/-- A target whose text has no blanks around it. A host in brackets ends at the first closing bracket,
any other host at the last colon. -/
def parseTrimmed (cs : List Char) : Except Fault Target :=
  let text := String.ofList cs
  match cs with
  | [] => .error .blank
  | '[' :: inner =>
    match Url.cut (· == ']') inner with
    | (_, none) => .error (.malformed text)
    | (host, some []) => .ok ⟨String.ofList host, defaultPort⟩
    | (host, some (':' :: port)) => (parsePort port text).map (⟨String.ofList host, ·⟩)
    | (_, some _) => .error (.malformed text)
  | cs =>
    match Url.cutLast ':' cs with
    | (none, host) => .ok ⟨String.ofList host, defaultPort⟩
    | (some [], _) => .error (.malformed text)
    | (some host, port) => (parsePort port text).map (⟨String.ofList host, ·⟩)

/-- The target that a text names. -/
def parse (s : String) : Except Fault Target :=
  parseTrimmed (trim s.toList)

/-- The text of a target. A host with a colon stands in brackets. -/
def toChars (t : Target) : List Char :=
  (if ':' ∈ t.host.toList then '[' :: t.host.toList ++ [']'] else t.host.toList) ++ ':' :: decimal t.port

def toString (t : Target) : String :=
  String.ofList t.toChars

/-- The port of a URL that gives none, by scheme. -/
def schemePort (scheme : List Char) : Int :=
  if scheme = "http".toList then 80 else if scheme = "https".toList then 443 else defaultPort

/-- The target that a URL leads to; a port of zero counts as none. The URL was written `shown`. -/
def ofShownUrl (u : Url) (shown : String) : Except Fault Target :=
  match u.hostName with
  | .error f => .error (.unreadableHost f)
  | .ok host =>
    if host.isEmpty then .error (.noHost shown)
    else
      let port := match u.port with
        | some n => if n = 0 then schemePort u.scheme else n
        | none => schemePort u.scheme
      .ok ⟨String.ofList host, port⟩

/-- The target that a URL leads to. -/
def ofUrl (u : Url) : Except Fault Target :=
  ofShownUrl u u.toString

end Target

end BlockingQuery
