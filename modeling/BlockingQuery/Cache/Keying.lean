import BlockingQuery.Cache.Snapshot
import BlockingQuery.Failure
import BlockingQuery.Json.Shown

/-!
# Keys of entities

A `Keying` tells where the key of an entity is found. `Keying.keyOf` finds it, or fails where the entity is
built otherwise.
-/

namespace BlockingQuery

open Text

/-- Where the key of an entity is found. -/
inductive Keying
  /-- In a field. -/
  | field (name : String)
  /-- In the path of an entry, below a root without a leading slash. -/
  | pathBelow (root : CodePoints)
  /-- In the node and the instance of a service on it. -/
  | instanceOnNode

namespace Keying

/-- The value of a field. -/
def member (name : String) : Json → Except Failure Json
  | .obj members => match Json.member? (CodePoints.ofString name) members with
    | some v => .ok v
    | none => .error (.missingField name)
  | _ => .error .notAnObject

/-- The path without the slashes that it begins with. -/
def trimSlashes (path : CodePoints) : CodePoints :=
  path.dropWhile (· == '/'.val)

/-- A path below the root: without the root, and without the slashes after it. Any other path is left
alone. -/
def relative (root path : CodePoints) : CodePoints :=
  if root.isPrefixOf path then trimSlashes (path.drop root.length) else path

/-- The key below a root. Without a root it is taken as it is. -/
def keyBelow (root : CodePoints) (key : Json) : Except Failure Json :=
  if root.isEmpty then .ok key
  else match key with
    | .str path => .ok (.str (relative root path))
    | _ => .error .notAText

/-- The key of an entity. -/
def keyOf (keying : Keying) (entity : Json) : Except Failure Json :=
  match keying with
  | .field name => member name entity
  | .pathBelow root => do keyBelow root (← member "Key" entity)
  | .instanceOnNode => do
    let node ← member "Node" (← member "Node" entity)
    let service ← member "ID" (← member "Service" entity)
    return .str (node.shown ++ '/'.val :: service.shown)

end Keying

end BlockingQuery
