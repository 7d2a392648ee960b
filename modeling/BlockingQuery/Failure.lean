import BlockingQuery.Http.ContentCoding
import BlockingQuery.Http.ContentType
import BlockingQuery.Http.Request
import BlockingQuery.Json.Value

/-!
# Failures

What may go wrong between asking for a query and having its answer. `Failure.message` is the text of each
cause; it may hold lone surrogates, as the body of an answer may.
-/

namespace BlockingQuery

/-- Ways in which a transport fails to bring an answer. They, and no other failures, send a request on to
the next target. -/
inductive TransportFault
  | connectError
  | connectTimeout
  | readTimeout
  | writeTimeout
  | poolTimeout
  | readError
  | writeError
  | closeError
  | proxyError
  | unsupportedProtocol
  | localProtocolError
  | remoteProtocolError
  deriving DecidableEq, Repr

/-- The calls of a failover strategy that a strategy of the application may fail in. -/
inductive Hook
  | viability
  | marking
  deriving DecidableEq, Repr

def Hook.name : Hook → String
  | .viability => "is_request_viable"
  | .marking => "mark_failed"

/-- Why a step of a query fails. -/
inductive Failure
  /-- The transport brought no answer. -/
  | transport (fault : TransportFault) (text : String)
  /-- Code of the application, or the transport, raised something of its own kind. -/
  | foreign (kind text : String)
  /-- A target has no text or no host. -/
  | target (fault : Target.Fault)
  /-- The host of a URL cannot be read. -/
  | domainName (fault : DomainName.Fault)
  /-- A text is no URL. -/
  | url (fault : Url.Fault)
  /-- An answer sends the client on to what is no URL. -/
  | location (fault : Url.Fault)
  /-- An answer came for a URL that does not begin with a scheme. -/
  | noScheme (shown : String)
  /-- A cookie came for some ports of a server, for a URL without one. -/
  | noServer
  /-- The caller waits in another way than the layers do. -/
  | otherWaiting
  /-- There is no policy that would choose a target. -/
  | noPolicy
  /-- The coding of a body cannot be undone. -/
  | coding (fault : Inflate.Fault)
  /-- The text of an answer is not known. -/
  | contentType (fault : ContentType.Fault)
  /-- A number has too many digits. -/
  | tooLong (e : Numeral.TooLong)
  /-- A quotient or an infinity does not fit where it is to go. -/
  | overflow
  /-- What is no number has no nearest integer. -/
  | notANumber
  /-- What is no number is no time to wait. -/
  | notADuration
  /-- Every candidate target is blacklisted. -/
  | noViableTarget (targets : List Target)
  /-- Every viable target failed, the last one for the given cause. -/
  | exhausted (targets attempted : List Target) (last : Option (TransportFault × String))
  /-- The strategy itself failed. -/
  | strategy (hook : Hook)
  /-- The server answered with a status of failure. -/
  | status (status : Int) (body : Text.CodePoints) (target : Option Target)
  /-- A successful answer holds no JSON. -/
  | invalidJson (target : Option Target)
  /-- A successful answer holds containers in too many others. -/
  | tooDeep (c : Json.Container)
  /-- A successful answer holds no text. -/
  | undecodable
  /-- An answer names no index. -/
  | missingIndex (path : String) (target : Option Target)
  /-- An entity lacks the field that its key is taken from. -/
  | missingField (name : String)
  /-- Something other than an object was asked for a field. -/
  | notAnObject
  /-- A key is an array or an object. -/
  | unhashableKey
  /-- A key that has to be a text is none. -/
  | notAText
  /-- A header field cannot be sent as ASCII text. -/
  | nonAsciiHeader (text : String)
  deriving DecidableEq, Repr

namespace Failure

/-- The text of a target that may be unknown. -/
def targetText : Option Target → String
  | some t => t.toString
  | none => "None"

/-- The run of characters outside ASCII that a text cannot be sent for. -/
def nonAsciiMessage (text : String) : String :=
  let cs := text.toList
  let start := (cs.takeWhile fun c => c.toNat < 0x80).length
  let run := (cs.drop start).takeWhile fun c => 0x80 ≤ c.toNat
  match run with
  | [c] =>
    let n := c.toNat
    let escape := if n < 0x100 then '\\' :: 'x' :: Text.hexDigits 2 n
      else if n < 0x10000 then '\\' :: 'u' :: Text.hexDigits 4 n
      else '\\' :: 'U' :: Text.hexDigits 8 n
    s!"'ascii' codec can't encode character '{String.ofList escape}' in position {start}: " ++
      "ordinal not in range(128)"
  | _ =>
    s!"'ascii' codec can't encode characters in position {start}-{start + run.length - 1}: " ++
      "ordinal not in range(128)"

/-- How much of a body the text of a failure shows. -/
def shownLength : Nat := 200

/-- The text of a failure before the body that came with it. Where it would only tell how a reader stumbled, it
is empty. -/
def heading : Failure → String
  | .transport _ text => text
  | .foreign _ text => text
  | .target fault => fault.message
  | .domainName fault => fault.message
  | .url _ => ""
  | .location fault => s!"Invalid URL in location header: {fault.message}."
  | .noScheme shown => s!"unknown url type: {Text.quoted shown}"
  | .noServer => ""
  | .otherWaiting => ""
  | .noPolicy => ""
  | .coding fault => ContentCoding.message fault
  | .contentType fault => fault.message
  | .tooLong e => e.message
  | .overflow => ""
  | .notANumber => "cannot convert float NaN to integer"
  | .notADuration => "Invalid value NaN (not a number)"
  | .noViableTarget _ => "Failover strategy has determined that there are no viable hosts remaining"
  | .exhausted .. => "Unable to successfully determine a viable host for communication"
  | .strategy hook => s!"strategy fault: {hook.name}"
  | .status code _ server =>
    let origin := match server with
      | some t => s!" from {t.toString}"
      | none => ""
    s!"Consul returned HTTP {code}{origin}: "
  | .invalidJson server => s!"Invalid JSON from {targetText server}"
  | .tooDeep c => s!"maximum recursion depth exceeded while decoding a JSON {c.name} from a unicode string"
  | .undecodable => ""
  | .missingIndex path _ => s!"Response for {path} has no X-Consul-Index header"
  | .missingField name => Text.quoted name
  | .notAnObject => ""
  | .unhashableKey => ""
  | .notAText => ""
  | .nonAsciiHeader text => nonAsciiMessage text

/-- The text of a failure. -/
def message (f : Failure) : Text.CodePoints :=
  let shown := match f with
    | .status _ body _ => body.take shownLength
    | _ => []
  Text.CodePoints.ofString f.heading ++ shown

/-- The least status that is put down to the server, and not to what it was asked. -/
def serverError : Int := 500

/-- The target that a status is blamed on, if the target is known. -/
def blames (server : Option Target) (code : Option Int) : Option Target :=
  server.filter fun _ => code.any fun c => serverError ≤ c

/-- The target that a failure is blamed on, beside those that the transport failed to reach. -/
def blamed : Failure → Option Target
  | .status code _ server => blames server (some code)
  | _ => none

/-- Whether no target was left to ask. -/
def isFatal : Failure → Bool
  | .noViableTarget _ | .exhausted .. => true
  | _ => false

end Failure

end BlockingQuery
