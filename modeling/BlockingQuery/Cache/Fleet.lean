import BlockingQuery.Cache.Command

/-!
# Caches with common surroundings

The caches of a `Fleet` read one clock, take their chance from one source, and may share one failover policy.
`Fleet.update` does something with one of them, and the others find the surroundings as it left them.
-/

namespace BlockingQuery

/-- Caches with their setups. -/
structure Fleet where
  caches : List (Setup × Cache)
  /-- Whether the failover policy is common to all. -/
  commonPolicy : Bool

namespace Fleet

/-- A cache in the surroundings that another one left behind. -/
def surround (commonPolicy : Bool) (left : Surroundings) (s : Cache) : Cache :=
  { s with now := left.now, draws := left.draws,
           policy := if commonPolicy then left.policy else s.policy }

/-- Does something with the cache at a position. -/
def update {α : Type} (f : Fleet) (i : Nat) (action : Setup → Cache → α × Cache) : Option α × Fleet :=
  match f.caches[i]? with
  | none => (none, f)
  | some (c, s) =>
    let (a, s) := action c s
    let others := f.caches.map fun (d, t) => (d, surround f.commonPolicy s.toSurroundings t)
    (some a, { f with caches := others.set i (c, s) })

end Fleet

end BlockingQuery
