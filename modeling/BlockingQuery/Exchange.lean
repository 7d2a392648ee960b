import BlockingQuery.Adjustment
import BlockingQuery.Failover.Policy

/-!
# Exchanges

An `Exchange` is a request on its way through a stack of layers to the transport. `Exchange.start` takes a
request down the stack, `Exchange.receive` takes up what the transport made of it. A failover layer chooses
the target of each attempt and, when the transport brings no answer, blames that target and sends the
request on to the next one; an adjusting layer sets the read limit of whatever passes it.

A `Stack` is layers together with the way of waiting that they are made for; a caller who waits otherwise is
refused.

The failures that send a request on come from the transport alone, so among several failover layers only the
innermost one ever sees one: it is the one an exchange keeps the `Cycle` of.
-/

namespace BlockingQuery

open Failover

/-- A layer between a client and the transport. -/
inductive Layer
  | adjusting (a : Adjustment)
  | failover

/-- How a caller waits for an answer. -/
inductive Waiting
  /-- Nothing else happens until the answer is there. -/
  | blocking
  /-- Other tasks go on. -/
  | suspended
  deriving DecidableEq, Repr

/-- Layers, outermost first, that serve the callers who wait in the same way as they do. -/
structure Stack where
  waiting : Waiting
  layers : List Layer

/-- The stack that blocking queries pass: each attempt of the failover, if there is a policy for one, has
its own adjustment. It is made for callers among other tasks. -/
def Stack.standard (failsOver : Bool) (a : Adjustment) : Stack where
  waiting := .suspended
  layers := if failsOver then [.failover, .adjusting a] else [.adjusting a]

/-- What a transport makes of an attempt. -/
inductive Outcome
  | response (status : Int) (headers : Headers) (body : List UInt8)
  | raised (failure : Failure)

/-- What a transport makes of a response that came in: the coding of its body is undone. -/
def Outcome.received (status : Int) (headers : Headers) (body : List UInt8) : Outcome :=
  match ContentCoding.decode headers body with
  | .ok body => .response status headers body
  | .error fault => .raised (.coding fault)

/-- An attempt under way in a failover layer, after others that failed. -/
structure Cycle where
  /-- The layers that each attempt passes below the failover layer. -/
  below : List Layer
  /-- The target of the attempt. -/
  target : Target
  /-- The targets tried before, in order. -/
  attempted : List Target := []
  /-- How the transport failed in the attempt before. -/
  last : Option (TransportFault × String) := none

/-- A request that the transport has, and what is to happen to the outcome. -/
structure Exchange where
  /-- The URL that was asked for, before any target was chosen. -/
  asked : Url
  /-- The request as it reached the transport. -/
  request : Request
  /-- The cycle of the innermost failover layer. -/
  cycle : Option Cycle := none
  /-- The target that the outermost one of several failover layers chose. -/
  outer : Option Target := none

/-- How far an exchange has come. -/
inductive Progress
  | sent (x : Exchange)
  | answered (r : Response)
  | failed (f : Failure)

namespace Exchange

variable {τ : Type} [Seconds τ]

/-- The target that an answer is put down to. -/
def servedBy (x : Exchange) : Option Target :=
  match x.outer with
  | some t => some t
  | none => x.cycle.map (·.target)

/-- The exchange after it left a failover layer that chose the target `t` and has the layers `below`
it. -/
def chosen (x : Exchange) (t : Target) (below : List Layer) : Exchange :=
  match x.cycle with
  | none => { x with cycle := some { below, target := t } }
  | some _ => { x with outer := some t }

/-- The request of an attempt and its target, unless the cycle is over. -/
def choose (now : τ) (p : Policy τ) (r : Request) (attempted : List Target)
    (last : Option (TransportFault × String)) : Except Failure (Request × Target) × Policy τ :=
  match p.nextStage now r attempted with
  | (.error f, p) => (.error f, p)
  | (.ok none, p) => (.error (.exhausted p.shownTargets attempted last), p)
  | (.ok (some r), p) =>
    match Target.ofUrl r.url with
    | .error fault => (.error (.target fault), p)
    | .ok t => (.ok (r, t), p)

/-- The first attempt of a failover layer. -/
def enter (now : τ) (p : Policy τ) (r : Request) : Except Failure (Request × Target) × Policy τ :=
  match p.isViable now with
  | (.error f, p) => (.error f, p)
  | (.ok false, p) => (.error (.noViableTarget p.shownTargets), p)
  | (.ok true, p) => choose now p r [] none

/-- Takes a request down the layers. A failover layer cannot do without a policy. -/
def start (now : τ) (policy : Option (Policy τ)) : List Layer → Request → Progress × Option (Policy τ)
  | [], r => (.sent { asked := r.url, request := r }, policy)
  | .adjusting a :: below, r =>
    match a.apply r with
    | .error f => (.failed f, policy)
    | .ok r => start now policy below r
  | .failover :: below, r =>
    match policy with
    | none => (.failed .noPolicy, none)
    | some p =>
      match enter now p r with
      | (.error f, p) => (.failed f, some p)
      | (.ok (stage, t), p) =>
        match start now (some p) below stage with
        | (.sent x, policy) => (.sent { x.chosen t below with asked := r.url }, policy)
        | other => other

/-- Goes on to the next target of a cycle, after the present one failed. -/
def proceed (now : τ) (p : Policy τ) (x : Exchange) (c : Cycle) (fault : TransportFault × String) :
    Progress × Option (Policy τ) :=
  let attempted := c.attempted ++ [c.target]
  match choose now p x.request attempted (some fault) with
  | (.error f, p) => (.failed f, some p)
  | (.ok (r, t), p) =>
    match start now (some p) c.below r with
    | (.sent y, policy) =>
      let cycle := { c with target := t, attempted, last := some fault }
      (.sent { y with asked := x.asked, cycle := some cycle, outer := x.outer }, policy)
    | other => other

/-- Takes up what the transport made of the request. -/
def receive (now : τ) (policy : Option (Policy τ)) (x : Exchange) : Outcome → Progress × Option (Policy τ)
  | .response status headers body =>
    (.answered { status, headers, body, url := some x.asked, servedBy := x.servedBy }, policy)
  | .raised (.transport fault text) =>
    match policy, x.cycle with
    | some p, some c =>
      match p.mark now c.target with
      | (.error f, p) => (.failed f, some p)
      | (.ok (), p) => proceed now p x c (fault, text)
    | _, _ => (.failed (.transport fault text), policy)
  | .raised f => (.failed f, policy)

end Exchange

/-- What a scripted transport does next: time passes, and the attempt has an outcome. -/
structure Reply (τ : Type) where
  passing : Option τ
  outcome : Outcome

/-- An exchange as it went: the requests that reached the transport, the result, and the clock and the
policy afterwards. -/
structure Transcript (τ : Type) where
  attempts : List Request
  result : Except Failure Response
  now : τ
  policy : Option (Policy τ)

namespace Exchange

variable {τ : Type} [Seconds τ]

/-- Follows an exchange to its end, the transport answering by a script. -/
def follow (now : τ) : List (Reply τ) → Progress × Option (Policy τ) → Transcript τ
  | _, (.answered r, policy) => { attempts := [], result := .ok r, now, policy }
  | _, (.failed f, policy) => { attempts := [], result := .error f, now, policy }
  | [], (.sent x, policy) =>
    let response := { status := 200, headers := [], body := [], url := some x.asked, servedBy := x.servedBy }
    { attempts := [x.request], result := .ok response, now, policy }
  | reply :: script, (.sent x, policy) =>
    let now := match reply.passing with
      | some d => now + d
      | none => now
    let rest := follow now script (x.receive now policy reply.outcome)
    { rest with attempts := x.request :: rest.attempts }

/-- Sends a request through layers to a transport that answers by a script. -/
def run (now : τ) (policy : Option (Policy τ)) (layers : List Layer) (r : Request)
    (script : List (Reply τ)) : Transcript τ :=
  follow now script (start now policy layers r)

end Exchange

namespace Stack

variable {τ : Type} [Seconds τ]

/-- Refuses a caller who waits in another way than the layers do. -/
def checkCaller (caller : Waiting) (s : Stack) : Except Failure Unit :=
  if caller = s.waiting then .ok () else .error .otherWaiting

/-- Sends a request through a stack. A caller who is refused does not get as far as the first layer. -/
def run (caller : Waiting) (now : τ) (policy : Option (Policy τ)) (s : Stack) (r : Request)
    (script : List (Reply τ)) : Transcript τ :=
  match s.checkCaller caller with
  | .ok () => Exchange.run now policy s.layers r script
  | .error f => { attempts := [], result := .error f, now, policy }

end Stack

end BlockingQuery
