import BlockingQuery.Cache.Poll
import BlockingQuery.Proofs.OrderedMap
import Mathlib.Algebra.Order.Field.Rat

/-!
# The entities of an answer by their keys

Being the same key is an equivalence (`Key.instEquivBEq`): two numbers are the same key when they
stand for one number, whatever their mantissas and exponents (`Exact.same_finite_iff`). So the
dataset of an answer can be keyed in one look (`Setup.snapshotOf`): each key where it comes first,
with the last entity that has it, or no snapshot at all when some entity has no key. That is what
taking the keys one by one comes to, even if the cache is stopped on the way (`Cache.collect_eq`).
-/

namespace BlockingQuery

/-! ## Numbers -/

namespace Exact

/-- The absolute value of `m · 2 ^ e`. -/
def magnitude (m : Nat) (e : Int) : Rat :=
  m * (2 : Rat) ^ e

/-- Nothing but a mantissa of zero is zero. -/
theorem magnitude_eq_zero {m : Nat} {e : Int} : magnitude m e = 0 ↔ m = 0 := by
  have h : (2 : Rat) ^ e ≠ 0 := zpow_ne_zero e two_ne_zero
  simp [magnitude, h]

/-- A mantissa that takes over a part of the exponent. -/
theorem magnitude_eq (m : Nat) {e k : Int} (h : k ≤ e) :
    magnitude m e = (m * twoTo (e - k).toNat : Nat) * (2 : Rat) ^ k := by
  have hexp : ((e - k).toNat : Int) = e - k := Int.toNat_of_nonneg (by omega)
  have hpow : ((2 ^ (e - k).toNat : Nat) : Rat) = (2 : Rat) ^ (e - k) := by
    rw [Nat.cast_pow, ← zpow_natCast, hexp]
    rfl
  change (m : Rat) * 2 ^ e = ((m * 2 ^ (e - k).toNat : Nat) : Rat) * 2 ^ k
  rw [Nat.cast_mul, hpow, mul_assoc, ← zpow_add₀ two_ne_zero, Int.sub_add_cancel]

/-- Two finite numbers are the same when they stand for one number. -/
theorem same_finite_iff {n₁ n₂ : Bool} {m₁ m₂ : Nat} {e₁ e₂ : Int} :
    (finite n₁ m₁ e₁).same (finite n₂ m₂ e₂) = true ↔
      magnitude m₁ e₁ = magnitude m₂ e₂ ∧ (n₁ = n₂ ∨ m₁ = 0) := by
  have hpos : (2 : Rat) ^ min e₁ e₂ ≠ 0 := zpow_ne_zero _ two_ne_zero
  have htwo (n : Nat) : twoTo n ≠ 0 := Nat.pos_iff_ne_zero.1 (Nat.pow_pos (by decide))
  rw [magnitude_eq m₁ (min_le_left e₁ e₂), magnitude_eq m₂ (min_le_right e₁ e₂),
    mul_left_inj' hpos, Nat.cast_inj]
  simp only [same, Bool.and_eq_true, Bool.or_eq_true, beq_iff_eq, Nat.mul_eq_zero, htwo, or_false]

/-- Whether two numbers are the same key: what is no number is the same as itself. -/
def sameKey (x y : Exact) : Bool :=
  x.same y || (x == nan && y == nan)

/-- A number is the same key as itself. -/
@[simp] theorem sameKey_refl (x : Exact) : x.sameKey x = true := by
  cases x with
  | nan => rfl
  | infinite n => simp [sameKey, same]
  | finite n m e => simp [sameKey, same_finite_iff.2 ⟨rfl, .inl rfl⟩]

/-- Being the same key works both ways. -/
theorem sameKey_symm {x y : Exact} (h : x.sameKey y = true) : y.sameKey x = true := by
  cases x with
  | nan => cases y <;> simp_all [sameKey, same]
  | infinite n => cases y <;> simp_all [sameKey, same]
  | finite n₁ m₁ e₁ =>
    cases y with
    | nan | infinite => simp [sameKey, same] at h
    | finite n₂ m₂ e₂ =>
      have h' : (finite n₁ m₁ e₁).same (finite n₂ m₂ e₂) = true := by simpa [sameKey] using h
      obtain ⟨hm, hs⟩ := same_finite_iff.1 h'
      have hs' : n₂ = n₁ ∨ m₂ = 0 := hs.imp Eq.symm fun h0 => by
        rwa [← magnitude_eq_zero (e := e₂), ← hm, magnitude_eq_zero]
      simp [sameKey, same_finite_iff.2 ⟨hm.symm, hs'⟩]

/-- Being the same key carries over. -/
theorem sameKey_trans {x y z : Exact} (h : x.sameKey y = true) (k : y.sameKey z = true) :
    x.sameKey z = true := by
  cases y with
  | nan => cases x <;> cases z <;> simp_all [sameKey, same]
  | infinite n => cases x <;> cases z <;> simp_all [sameKey, same]
  | finite n₂ m₂ e₂ =>
    cases x with
    | nan | infinite => simp [sameKey, same] at h
    | finite n₁ m₁ e₁ =>
      cases z with
      | nan | infinite => simp [sameKey, same] at k
      | finite n₃ m₃ e₃ =>
        have h' : (finite n₁ m₁ e₁).same (finite n₂ m₂ e₂) = true := by simpa [sameKey] using h
        have k' : (finite n₂ m₂ e₂).same (finite n₃ m₃ e₃) = true := by simpa [sameKey] using k
        obtain ⟨hm, hs⟩ := same_finite_iff.1 h'
        obtain ⟨km, ks⟩ := same_finite_iff.1 k'
        have hsign : n₁ = n₃ ∨ m₁ = 0 := by
          rcases ks with rfl | h0
          · exact hs
          · right
            rwa [← magnitude_eq_zero (e := e₁), hm, magnitude_eq_zero]
        simp [sameKey, same_finite_iff.2 ⟨hm.trans km, hsign⟩]

end Exact

/-! ## Keys -/

namespace Key

/-- What is told of a key to say whether another one is the same. -/
theorem same_cases (a b : Key) :
    (a == b) = match a, b with
      | .text t, .text u => t == u
      | .null, .null => true
      | a, b => match a.toJson.number?, b.toJson.number? with
        | some x, some y => x.sameKey y
        | _, _ => false := by
  cases a <;> cases b <;> rfl

/-- Being the same key is an equivalence. -/
instance instEquivBEq : EquivBEq Key where
  rfl := by
    intro a
    cases a <;> simp [same_cases, toJson, Json.number?]
  symm := by
    intro a b h
    rw [same_cases] at h ⊢
    cases a <;> cases b <;> simp_all [toJson, Json.number?, Exact.sameKey_symm]
  trans := by
    intro a b d h k
    rw [same_cases] at h k ⊢
    cases a <;> cases b <;> try { simp [toJson, Json.number?] at h }
    all_goals cases d <;> try { simp [toJson, Json.number?] at k }
    all_goals first
      | exact Exact.sameKey_trans h k
      | simp_all

end Key

/-! ## Datasets -/

namespace Setup

/-- The key of an entity, if it can be one. -/
def key (c : Setup) (v : Json) : Except Failure Key :=
  (c.extract v).key.bind fun k => match Key.ofJson? k with
    | some k => .ok k
    | none => .error .unhashableKey

/-- The entities with their keys, or why the first entity without one has none. -/
def keyed (c : Setup) : List Json → Except Failure (List (Key × Json))
  | [] => .ok []
  | v :: vs => (c.key v).bind fun k => (c.keyed vs).map ((k, v) :: ·)

/-- The snapshot that an answer makes, or why its dataset cannot be keyed. -/
def snapshotOf (c : Setup) (a : Answer) : Except Failure Snapshot :=
  (c.keyed a.dataset).map fun es =>
    { entries := .ofList es, index := a.index, knownLeader := a.knownLeader,
      lastContactMs := a.lastContactMs }

end Setup

/-- Whether the index of an answer is above that of a snapshot. Any index is above none. -/
def Snapshot.isBelow (s : Snapshot) (a : Answer) : Bool :=
  match s.index, a.index with
  | _, none => false
  | none, some _ => true
  | some i, some j => decide (i < j)

/-- A snapshot is below an answer with an index unless there is a snapshot whose index is no less.
-/
theorem Snapshot.isBelow_eq (s : Snapshot) {a : Answer} (ha : a.index.isSome) :
    s.isBelow a = !(s.available && !indexIncreased s.index a.index) := by
  obtain ⟨j, hj⟩ := Option.isSome_iff_exists.1 ha
  rw [isBelow, available, hj]
  cases s.index <;> simp [indexIncreased]

/-- An answer above a snapshot has an index. -/
theorem Snapshot.isSome_of_isBelow {s : Snapshot} {a : Answer} (h : s.isBelow a = true) :
    a.index.isSome := by
  rw [Option.isSome_iff_ne_none]
  intro hnone
  rw [isBelow, hnone] at h
  cases h

/-- The snapshot that takes the place of another one when an answer comes in, if one does. -/
def Setup.adopted? (c : Setup) (s : Snapshot) (a : Answer) : Option Snapshot :=
  if s.isBelow a then (c.snapshotOf a).toOption else none

namespace Cache

/-- Taking keys one by one inserts what is keyed into the entries that were taken before. -/
theorem collect_eq_foldl (c : Setup) (vs : List Json) (es : Entries) (s : Cache) :
    (collect c vs es s).1 = (c.keyed vs).map fun new =>
      new.foldl (fun m e => m.insert e.1 e.2) es := by
  induction vs generalizing es s with
  | nil => rfl
  | cons v vs ih =>
    unfold collect Setup.keyed Setup.key
    dsimp only
    cases hx : (c.extract v).key with
    | error f => rfl
    | ok j =>
      cases hk : Key.ofJson? j with
      | none => simp [Except.bind, Except.map, hk]
      | some k =>
        simp only [Except.bind, hk]
        rw [ih]
        cases c.keyed vs <;> rfl

/-- Taking keys one by one comes to what the entities say last of each key. -/
theorem collect_eq (c : Setup) (vs : List Json) (s : Cache) :
    (collect c vs .empty s).1 = (c.keyed vs).map .ofList :=
  collect_eq_foldl c vs .empty s

end Cache

end BlockingQuery
