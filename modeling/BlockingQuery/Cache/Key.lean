import BlockingQuery.Json.Equality

/-!
# Keys

A `Key` is a JSON value that an entity can be found under: any but an array and an object. Keys are the same
if the values are equal, and what is no number is the same key as itself.
-/

namespace BlockingQuery

open Text

/-- What entities are found under. -/
inductive Key
  | null
  | bool (b : Bool)
  | int (n : Int)
  | float (x : Float)
  | text (t : CodePoints)

namespace Key

/-- The value that a key is. -/
def toJson : Key → Json
  | .null => .null
  | .bool b => .bool b
  | .int n => .int n
  | .float x => .float x
  | .text t => .str t

/-- The key that a value is, if it can be one. -/
def ofJson? : Json → Option Key
  | .null => some .null
  | .bool b => some (.bool b)
  | .int n => some (.int n)
  | .float x => some (.float x)
  | .str t => some (.text t)
  | .arr _ | .obj _ => none

/-- Whether two keys are the same. -/
def same : Key → Key → Bool
  | .text t, .text u => t == u
  | .null, .null => true
  | a, b => match a.toJson.number?, b.toJson.number? with
    | some x, some y => x.same y || (x == .nan && y == .nan)
    | _, _ => false

instance : BEq Key := ⟨same⟩

end Key

end BlockingQuery
