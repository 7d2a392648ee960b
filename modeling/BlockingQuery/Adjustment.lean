import BlockingQuery.Failure
import BlockingQuery.Http.Query
import BlockingQuery.Wait

/-!
# Read limits for blocking queries

A server holds a blocking query for up to its `wait`, and for up to a sixteenth of that on top, before it
answers. `Adjustment.readLimit` is the read limit that outlasts both, in milliseconds, and
`Adjustment.apply` gives it to a request. A request that does not wait, or whose wait cannot be read, keeps
the limit that it has.
-/

namespace BlockingQuery

/-- Whether read limits follow the wait, and the time to spare in milliseconds. -/
structure Adjustment where
  enabled : Bool := true
  marginMs : Int := 2000
  deriving DecidableEq, Repr

namespace Adjustment

/-- What may be wrong with an adjustment. -/
inductive Defect
  | negativeMargin
  deriving DecidableEq, Repr

def Defect.message : Defect → String
  | .negativeMargin => "margin_ms must be non-negative"

/-- What is wrong with an adjustment. -/
def defects (a : Adjustment) : List Defect :=
  if a.marginMs < 0 then [.negativeMargin] else []

/-- The part of its wait by which a server may answer late. -/
def lateness : Nat := 16

/-- The number of a faulty reading as a failure of the query. -/
def ofFault : Exact.Fault → Failure
  | .notANumber => .notANumber
  | .infinite => .overflow

/-- The time by which a server may answer late, in milliseconds: the quotient as a double, and then the
next integer that is not below it. -/
def late (waitMs : Nat) : Except Failure Int :=
  match Binary64.quotient? waitMs lateness with
  | none => .error .overflow
  | some x => (Exact.ofFloat x).ceil?.mapError ofFault

/-- The read limit of a request with the given wait, in milliseconds; `default` is the one that it has. -/
def readLimit (a : Adjustment) (wait : Option String) (default : Option Int) :
    Except Failure (Option Int) :=
  if !a.enabled then .ok default
  else match Wait.parse wait with
    | .error e => .error (.tooLong e)
    | .ok none => .ok default
    | .ok (some waitMs) => (late waitMs).map fun l => some (waitMs + l + a.marginMs)

/-- A limit in whole milliseconds, to the nearest, a tie to the even one. -/
def milliseconds : Limit → Except Failure (Option Int)
  | .seconds s => ((Exact.ofFloat (s * 1000)).round?.mapError ofFault).map some
  | .unset | .unlimited => .ok none

/-- The number of seconds that the read limit of a request has to become, if it has to change. -/
def change (a : Adjustment) (r : Request) : Except Failure (Option Float) := do
  let default ← milliseconds (r.timeouts.getD {}).read
  let adjusted ← a.readLimit (Query.first? "wait" r.url.query) default
  if adjusted = default then return none
  match adjusted with
  | none => return none
  | some ms => match Binary64.quotient? ms 1000 with
    | some s => return some s
    | none => throw .overflow

/-- The request with the read limit that its wait asks for. -/
def apply (a : Adjustment) (r : Request) : Except Failure Request := do
  match ← a.change r with
  | none => return r
  | some s => return { r with timeouts := some { r.timeouts.getD {} with read := .seconds s } }

end Adjustment

end BlockingQuery
