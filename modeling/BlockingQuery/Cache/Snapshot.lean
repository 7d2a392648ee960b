import BlockingQuery.Cache.Key
import BlockingQuery.OrderedMap

/-!
# Snapshots

A `Snapshot` is the state of the remote dataset at an index: the entities by their keys. Before the first
answer it is `Snapshot.empty`, which has no index.
-/

namespace BlockingQuery

/-- Entities by key, in the order in which their keys came first. -/
abbrev Entries := OrderedMap Key Json

/-- The dataset at an index. -/
structure Snapshot where
  entries : Entries
  index : Option Int
  knownLeader : Option Bool
  lastContactMs : Option Int

namespace Snapshot

/-- The snapshot before the first answer. -/
def empty : Snapshot :=
  { entries := .empty, index := none, knownLeader := none, lastContactMs := none }

instance : Inhabited Snapshot := ⟨empty⟩

/-- Whether the snapshot comes from an answer. -/
def available (s : Snapshot) : Bool :=
  s.index.isSome

/-- Whether two maps hold equal values under the same keys, in whatever order. -/
def sameEntries (a b : Entries) : Bool :=
  a.size == b.size && a.entries.all fun (k, v) =>
    match b.lookup? k with
    | some w => v.same w
    | none => false

/-- Whether two snapshots hold the same entities at the same index. -/
def same (a b : Snapshot) : Bool :=
  a.index == b.index && sameEntries a.entries b.entries

end Snapshot

end BlockingQuery
