import BlockingQuery.Failure
import BlockingQuery.Json.Decode

/-!
# Answers to blocking queries

An `Answer` is what a response says: the entities, the index of the state that they belong to, and who
served it. `Answer.ofResponse` reads one. Status 404 is an answer without entities; any other status outside
200 to 299 is a failure, and so is a body that is no JSON.
-/

namespace BlockingQuery

open Text

/-- The answer to a blocking query. -/
structure Answer where
  index : Option Int
  dataset : List Json
  target : Option Target
  knownLeader : Option Bool
  lastContactMs : Option Int
  notFound : Bool

namespace Answer

/-- The integer in a field, if there is one. -/
def intField? (headers : Headers) (name : String) : Option Int :=
  (headers.get? name).bind fun value => Numeral.int? value.toList

/-- The index of the state that an answer belongs to. -/
def index? (headers : Headers) : Option Int :=
  intField? headers "X-Consul-Index"

/-- Whether the server knows a leader, if it says so. -/
def knownLeader? (headers : Headers) : Option Bool :=
  (headers.get? "X-Consul-KnownLeader").map fun value => lower (trimmed value) == "true"

/-- The milliseconds since the server heard from the leader, if it tells. -/
def lastContact? (headers : Headers) : Option Int :=
  intField? headers "X-Consul-LastContact"

/-- The target that a response is put down to: the one that is known to have served it, or else the one
that it was asked for. -/
def origin (r : Response) : Except Failure (Option Target) :=
  match r.servedBy, r.url with
  | some t, _ => .ok (some t)
  | none, some u => ((Target.ofUrl u).mapError .target).map some
  | none, none => .ok none

/-- The entities of a decoded body: the items of an array, none for null, and any other value by itself. -/
def entities : Json → List Json
  | .null => []
  | .arr items => items
  | value => [value]

/-- The entities of a body. -/
def readDataset (target : Option Target) (body : List UInt8) : Except Failure (List Json) :=
  if body.isEmpty then .ok []
  else match Json.ofBytes body with
    | .ok value => .ok (entities value)
    | .error .undecodable => .error .undecodable
    | .error .malformed => .error (.invalidJson target)
    | .error (.tooLong n) => .error (.tooLong ⟨n⟩)
    | .error (.tooDeep c) => .error (.tooDeep c)

/-- The status of an answer that there is nothing. -/
def notFoundStatus : Int := 404

/-- The answer that a response gives. -/
def ofResponse (r : Response) : Except Failure Answer := do
  let target ← origin r
  let answer (dataset : List Json) (notFound : Bool) : Answer :=
    { index := index? r.headers, dataset, target, knownLeader := knownLeader? r.headers,
      lastContactMs := lastContact? r.headers, notFound }
  if r.status = notFoundStatus then return answer [] true
  if !r.isSuccess then
    let text ← (ContentType.text (r.headers.get? "Content-Type") r.body).mapError .contentType
    throw (.status r.status text target)
  return answer (← readDataset target r.body) false

end Answer

/-- Whether an index tells of a newer state than the one before. -/
def indexIncreased (previous current : Option Int) : Bool :=
  match previous, current with
  | _, none => false
  | none, some _ => true
  | some p, some c => p < c

end BlockingQuery
