import BlockingQuery.Cache.Keying
import BlockingQuery.Cache.State

/-!
# Resources

A `Resource` is what a cache is a view of: any path, the entries below a root of the key-value store, or the
instances of a service. It fixes the path that is polled, the parameters of its own, and how entities are
keyed. `Resource.setup` builds the setup of a cache for one.
-/

namespace BlockingQuery

open Text

/-- What a cache is a view of. -/
inductive Resource
  /-- A path whose entities have their key in a field. -/
  | path (path : String) (field : String)
  /-- The entries below a root. -/
  | entries (root : String)
  /-- The instances of a service. -/
  | service (name : String)
  /-- The instances of a service with their health, or only those that pass. -/
  | health (name : String) (passing : Bool)

/-- Why there is no cache with a configuration. -/
inductive Config.Fault
  | defective (defects : List Config.Defect)
  /-- The time to wait cannot be written. -/
  | unwritable (e : Numeral.TooGreat)
  deriving DecidableEq, Repr

def Config.Fault.message : Config.Fault → String
  | .defective ds => "Invalid cache config: " ++ String.intercalate "; " (ds.map Config.Defect.message)
  | .unwritable e => e.message

namespace Resource

/-- A root without the slashes that it begins with. -/
def trimRoot (root : String) : List Char :=
  root.toList.dropWhile (· == '/')

/-- A service name as a segment of a path. -/
def segment (name : String) : String :=
  String.ofList (Percent.encode Percent.isUnreserved name.toList)

/-- The path that is polled. -/
def polledPath : Resource → String
  | .path p _ => p
  | .entries root =>
    let safe (c : Char) : Bool := Percent.isUnreserved c || c == '/'
    "/v1/kv/" ++ String.ofList (Percent.encode safe (trimRoot root))
  | .service name => "/v1/catalog/service/" ++ segment name
  | .health name _ => "/v1/health/service/" ++ segment name

/-- The parameters that a resource brings along. -/
def params : Resource → Params
  | .entries _ => .ofList [("recurse", "")]
  | .health _ true => .ofList [("passing", "true")]
  | _ => .empty

/-- The name of a cache that was given none. -/
def standardName : Resource → String
  | .path p _ => p
  | .entries root =>
    let root := String.ofList (trimRoot root)
    "kv:" ++ (if root.isEmpty then "/" else root)
  | .service name => "catalog:" ++ name
  | .health name _ => "health:" ++ name

/-- Where entities have their key. -/
def keying : Resource → Keying
  | .path _ field => .field field
  | .entries root => .pathBelow ((trimRoot root).map Char.val)
  | .service _ => .field "ServiceID"
  | .health _ _ => .instanceOnNode

/-- The name of the kind of cache. -/
def kind : Resource → String
  | .path .. => "ConsulCache"
  | .entries _ => "KVCache"
  | .service _ => "ServiceCatalogCache"
  | .health .. => "ServiceHealthCache"

/-- How a cache of a resource is shown. -/
def shown (r : Resource) (name : String) (lifecycle : Lifecycle) : String :=
  s!"{r.kind}(name={quoted name}, state={lifecycle.name})"

/-- Takes keys as the resource says, and stops the cache at a key equal to `stopAt`. -/
def extract (r : Resource) (stopAt : Option Json) (entity : Json) : Extraction :=
  let key := r.keying.keyOf entity
  let stops := match key, stopAt with
    | .ok k, some v => k.same v
    | _, _ => false
  { stops, key }

/-- How the code of the application behaves around a cache. -/
structure Behaviour where
  stopAt : Option Json := none
  listener : String → Snapshot → List Act := fun _ _ => []
  observer : String → Event → List Reaction := fun _ _ => []
  openFault : Nat → Option Failure := fun _ => none
  closeFault : Nat → Option Failure := fun _ => none

/-- The setup of a cache. An empty name counts as none. -/
def setup (r : Resource) (client : Client) (config : Config Float) (params : Params) (name : Option String)
    (b : Behaviour) : Except Config.Fault Setup :=
  match config.defects, Wait.write config.waitSeconds with
  | d :: ds, _ => .error (.defective (d :: ds))
  | [], .error e => .error (.unwritable e)
  | [], .ok _ => .ok {
      name := match name with
        | some n => if n.isEmpty then r.standardName else n
        | none => r.standardName
      path := r.polledPath
      config, client
      params := r.params.update params
      extract := r.extract b.stopAt
      listener := b.listener
      observer := b.observer
      openFault := b.openFault
      closeFault := b.closeFault }

end Resource

end BlockingQuery
