import BlockingQuery.Answer
import BlockingQuery.Client
import BlockingQuery.Exchange
import BlockingQuery.Http.Cookie
import BlockingQuery.Http.Credentials
import BlockingQuery.Http.Reference

/-!
# Sessions

A `Session` is a client ready to send queries. `Session.parameters` puts together the parameters of a
query: those of the client, those of the query, the index last seen and the time to wait, each taking the
place of an earlier one of its name. `Session.request` is the request for a path below the URL of the
client, and `Session.receive` takes up a response to one: the cookies that it sets, which later requests bring
along, and the answer that it gives.
-/

namespace BlockingQuery

/-- A client ready to send queries. The path of `base` ends with a slash. -/
structure Session where
  base : Url
  client : Client
  layers : List Layer
  /-- The cookies that servers have set so far. -/
  cookies : CookieJar := []

namespace Session

/-- The URL with a slash at the end of its path and query. -/
def withFinalSlash (u : Url) : Except Url.Fault Url :=
  if u.rawPath.getLast? = some '/' then .ok u else u.withRawPath (u.rawPath ++ ['/'])

/-- Refuses a text that is not ASCII. -/
def checkAscii (s : String) : Except Failure Unit :=
  if s.toList.all fun c => c.toNat < 0x80 then .ok () else .error (.nonAsciiHeader s)

/-- Opens a session, with failover or without. -/
def ofClient (c : Client) (failsOver : Bool) (a : Adjustment) : Except Failure Session := do
  let url ← (Url.parse c.baseUrl.toList).mapError .url
  let base ← (withFinalSlash url).mapError .url
  c.headers.entries.forM fun (name, value) => do
    checkAscii name
    checkAscii value
  return { base, client := c, layers := (Stack.standard failsOver a).layers }

/-- The URL of a path: a URL by itself if it is absolute, and else below the base, whatever slashes it
begins with. -/
def resolve (s : Session) (path : String) : Except Url.Fault Url := do
  let u ← Url.parse path.toList
  if u.isAbsolute then return u
  s.base.withRawPath (s.base.rawPath ++ u.rawPath.dropWhile (· == '/'))

/-- The parameters of a query. -/
def parameters (s : Session) (params : Params) (index : Option Int) (wait : Option String) : Params :=
  let named := s.client.options.params.update params
  let indexed := match index with
    | some i => named.insert "index" (String.ofList (Text.decimal i))
    | none => named
  match wait with
  | some w => if w.isEmpty then indexed else indexed.insert "wait" w
  | none => indexed

/-- Whether a text begins with what may be a scheme: something without a slash, and a colon. -/
def beginsWithScheme (cs : List Char) : Bool :=
  match Url.cut (fun c => c == '/' || c == ':') cs with
  | ([], _) => false
  | (name, _) => cs[name.length]? == some ':'

/-- Refuses a URL that does not begin with a scheme, where cookies come in or go out. A fragment does not count,
nor does the number sign before an empty one. -/
def checkScheme (u : Url) : Except Failure Unit :=
  let shown := u.toChars
  let (whole, fragment) := match Url.cutLast '#' shown with
    | (some whole, fragment) => (whole, fragment)
    | (none, whole) => (whole, [])
  if beginsWithScheme whole then .ok ()
  else .error (.noScheme (String.ofList (if fragment.isEmpty then whole else shown)))

/-- Refuses a URL that the cookies of the session cannot be sent to. -/
def checkCookies (s : Session) (u : Url) : Except Failure Unit :=
  if s.cookies.isEmpty then .ok () else checkScheme u

/-- The request for a path with the given parameters. -/
def request (s : Session) (path : String) (params : Params) : Except Failure Request := do
  let resolved ← (s.resolve path).mapError .url
  let query := if params.entries.isEmpty then none else some (Query.encode params.entries)
  let url ← (resolved.withQuery query).mapError .url
  s.checkCookies url
  let r ← (Request.create "GET" url s.client.headers.entries [] (some s.client.limits.timeouts)).mapError
    .domainName
  return match Credentials.authorization? url.userinfo with
    | some value => { r with headers := r.headers.set "Authorization" value }
    | none => r

/-! ## Responses -/

/-- Statuses that send a client on to the URL in the `Location` field. -/
def redirects : List Int := [301, 302, 303, 307, 308]

/-- The URL that a response sends the client on to. A scheme without a host takes the host that was asked, and
what is no absolute URL is relative to the URL that was asked, whose fragment stays. -/
def redirection (asked : Url) (location : String) : Except Failure Url := do
  let u ← (Url.parse location.toList).mapError .location
  let hosted ← if u.scheme.isEmpty then pure u
    else if !(← u.hostName.mapError .domainName).isEmpty then pure u
    else (u.withHost (← asked.hostName.mapError .domainName)).mapError .url
  let whole ← if hosted.isAbsolute then pure hosted else (asked.join hosted).mapError .url
  let fragment := asked.fragment.getD []
  if fragment.isEmpty || !(whole.fragment.getD []).isEmpty then return whole
  (whole.withFragment (Percent.decode fragment).toList).mapError .url

/-- Refuses a response that sends the client on to where no request can be made for. Nobody goes there. -/
def checkRedirection (s : Session) (asked : Url) (r : Response) : Except Failure Unit :=
  match r.headers.get? "Location" with
  | some location => do
    if redirects.contains r.status then
      let u ← redirection asked location
      let _ ← u.hostName.mapError .domainName
      let _ ← asked.hostName.mapError .domainName
      s.checkCookies u
  | none => .ok ()

/-- Takes up a response to a request of the session: its cookies, and the answer that it gives. -/
def receive (s : Session) (r : Response) : Except Failure Answer × Session :=
  match r.url with
  | none => (Answer.ofResponse r, s)
  | some asked =>
    match checkScheme asked with
    | .error f => (.error f, s)
    | .ok () =>
      let (isDecided, cookies) := s.cookies.receive asked r.headers
      let s := { s with cookies }
      if isDecided then ((s.checkRedirection asked r).bind fun _ => Answer.ofResponse r, s)
      else (.error .noServer, s)

end Session

end BlockingQuery
