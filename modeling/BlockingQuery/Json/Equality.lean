import BlockingQuery.Json.Value

/-!
# Equality of JSON values

Numbers are equal if they stand for the same number, whether they are integers or doubles, and the truth
values count as one and zero. Objects are equal if they hold equal values under the same names, in whatever
order.
-/

namespace BlockingQuery

open Text

/-- The exact number of an integer. -/
def Exact.ofInt (n : Int) : Exact :=
  .finite (decide (n < 0)) n.natAbs 0

/-- Whether two doubles or integers stand for the same number; what is no number equals nothing. -/
def Exact.same : Exact → Exact → Bool
  | .finite n₁ m₁ e₁, .finite n₂ m₂ e₂ =>
    let e := min e₁ e₂
    let a := m₁ * twoTo (e₁ - e).toNat
    let b := m₂ * twoTo (e₂ - e).toNat
    a == b && (n₁ == n₂ || a == 0)
  | .infinite n₁, .infinite n₂ => n₁ == n₂
  | _, _ => false

namespace Json

/-- The number of a value that is one. -/
def number? : Json → Option Exact
  | .bool b => some (.ofInt (if b then 1 else 0))
  | .int n => some (.ofInt n)
  | .float x => some (.ofFloat x)
  | _ => none

mutual

/-- Whether two values are equal. -/
def same : Json → Json → Bool
  | .null, .null => true
  | .str t, .str u => t == u
  | .arr vs, .arr ws => sameItems vs ws
  | .obj ms, .obj ns => ms.length == ns.length && sameMembers ns ms
  | v, w => match v.number?, w.number? with
    | some x, some y => x.same y
    | _, _ => false

/-- Whether items are equal, one by one. -/
def sameItems : List Json → List Json → Bool
  | [], [] => true
  | v :: vs, w :: ws => same v w && sameItems vs ws
  | _, _ => false

/-- Whether members have equal values under their names in `ns`. -/
def sameMembers (ns : List (CodePoints × Json)) : List (CodePoints × Json) → Bool
  | [] => true
  | (name, v) :: ms =>
    (match member? name ns with
      | some w => same v w
      | none => false) && sameMembers ns ms

end

end Json

end BlockingQuery
