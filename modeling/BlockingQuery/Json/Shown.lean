import BlockingQuery.Json.Value
import BlockingQuery.Number.Shortest
import BlockingQuery.Text.Quoted

/-!
# JSON values as text

`Json.shown` is the text of a value where it becomes part of a key. A string is its own text; inside an array
or an object it stands in quotation marks.
-/

namespace BlockingQuery.Json

open Text

/-- Texts with a comma and a space between them. -/
def commaSeparated (ts : List CodePoints) : CodePoints :=
  (CodePoints.ofString ", ").intercalate ts

mutual

/-- The text of a value inside another one. -/
def nested : Json → CodePoints
  | .null => CodePoints.ofString "None"
  | .bool b => CodePoints.ofString (if b then "True" else "False")
  | .int n => (decimal n).map Char.val
  | .float x => (Shortest.text x).map Char.val
  | .str t => t.quoted
  | .arr items => '['.val :: commaSeparated (nestedItems items) ++ [']'.val]
  | .obj members => '\x7b'.val :: commaSeparated (nestedMembers members) ++ ['\x7d'.val]

/-- The texts of items. -/
def nestedItems : List Json → List CodePoints
  | [] => []
  | v :: vs => nested v :: nestedItems vs

/-- The texts of members. -/
def nestedMembers : List (CodePoints × Json) → List CodePoints
  | [] => []
  | (name, v) :: ms => (CodePoints.quoted name ++ CodePoints.ofString ": " ++ nested v) :: nestedMembers ms

end

/-- The text of a value. -/
def shown : Json → CodePoints
  | .str t => t
  | v => nested v

end BlockingQuery.Json
