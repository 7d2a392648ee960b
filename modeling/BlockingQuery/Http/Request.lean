import BlockingQuery.Http.Headers
import BlockingQuery.Target
import BlockingQuery.Text.LetterCase

/-!
# Requests and responses

A `Request` carries its time limits with it. `Request.create` supplies the header fields that go without
saying, and `Request.retarget` sends a request to another target: the URL and the `Host` field follow the
target, all else stays.
-/

namespace BlockingQuery

/-- A time limit of a request: not given, none, or a number of seconds. -/
inductive Limit
  | unset
  | unlimited
  | seconds (s : Float)
  deriving DecidableEq

/-- The limit of a number of seconds, if there is one. -/
def Limit.ofOption : Option Float → Limit
  | some s => .seconds s
  | none => .unlimited

/-- The time limits of a request. -/
structure Timeouts where
  connect : Limit := .unset
  read : Limit := .unset
  write : Limit := .unset
  pool : Limit := .unset
  deriving DecidableEq

/-- An HTTP request. -/
structure Request where
  method : String
  url : Url
  headers : Headers
  body : List UInt8
  timeouts : Option Timeouts

namespace Request

/-- A new request. It names its host first, if it can be read, and its length if it has a body or is of a kind
that should have one. -/
def create (method : String) (url : Url) (headers : Headers) (body : List UInt8)
    (timeouts : Option Timeouts) : Except DomainName.Fault Request := do
  let method := Text.capitals method
  let headers := if body.isEmpty then headers
    else headers.default "Content-Length" (toString body.length)
  let name ← if headers.has "Host" then pure [] else url.hostName
  let host : Headers := if name.isEmpty then [] else [("Host", String.ofList url.endpoint)]
  let length : Headers :=
    if headers.has "Content-Length" || headers.has "Transfer-Encoding" then []
    else if ["POST", "PUT", "PATCH"].contains method then [("Content-Length", "0")] else []
  return { method, url, headers := host ++ length ++ headers, body, timeouts }

/-- The `Host` field. -/
def host? (r : Request) : Option String :=
  r.headers.get? "Host"

/-- The request, sent to another target. -/
def retarget (r : Request) (t : Target) : Except Url.Fault Request := do
  let url ← r.url.withEndpoint t.host.toList t.port
  return { r with url, headers := r.headers.set "Host" (String.ofList url.endpoint) }

end Request

/-- An HTTP response, with the URL it was asked for and the target that served it, where they are known. -/
structure Response where
  status : Int
  headers : Headers
  body : List UInt8
  url : Option Url
  servedBy : Option Target

/-- Whether the status reports success. -/
def Response.isSuccess (r : Response) : Bool :=
  200 ≤ r.status && r.status ≤ 299

end BlockingQuery
