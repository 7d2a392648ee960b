import BlockingQuery.Number.Binary64
import BlockingQuery.Text.CodePoint

/-!
# JSON values

`Json` is a decoded JSON text. Numbers written without a fraction and an exponent stay integers. The
members of an object have distinct names, in the order in which the names came first (`putMember`).
-/

namespace BlockingQuery

open Text

/-- A JSON value. -/
inductive Json
  | null
  | bool (b : Bool)
  | int (n : Int)
  | float (x : Float)
  | str (t : CodePoints)
  | arr (items : List Json)
  | obj (members : List (CodePoints × Json))
  deriving Inhabited

namespace Json

/-- The values that hold others. -/
inductive Container
  | array
  | object
  deriving DecidableEq, Repr

def Container.name : Container → String
  | .array => "array"
  | .object => "object"

/-- The members with one more: a name that is there keeps its place and takes the new value. -/
def putMember (name : CodePoints) (value : Json) :
    List (CodePoints × Json) → List (CodePoints × Json)
  | [] => [(name, value)]
  | (n, v) :: ms => if n == name then (n, value) :: ms else (n, v) :: putMember name value ms

/-- The value of a member. -/
def member? (name : CodePoints) (members : List (CodePoints × Json)) : Option Json :=
  members.lookup name

/-- A text that holds no lone surrogate. -/
def ofString (s : String) : Json :=
  .str (CodePoints.ofString s)

end Json

end BlockingQuery
