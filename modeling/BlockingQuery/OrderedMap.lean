/-!
# Maps in insertion order

An `OrderedMap` holds each key once, in the order in which the keys came. Giving a key a new value leaves
the key, and its place, as they were: `keys_insert` says where a key goes, `lookup?_insert_self` what it
then holds.
-/

namespace BlockingQuery

/-- Entries with distinct keys, in the order in which the keys were first given. -/
structure OrderedMap (κ ν : Type) [BEq κ] where
  entries : List (κ × ν)
  distinct : entries.Pairwise fun a b => (a.1 == b.1) = false

namespace OrderedMap

variable {κ ν : Type} [BEq κ]

/-- The map without entries. -/
def empty : OrderedMap κ ν := ⟨[], .nil⟩

instance : Inhabited (OrderedMap κ ν) := ⟨empty⟩

/-- Whether a key is present. -/
def contains (m : OrderedMap κ ν) (k : κ) : Bool :=
  m.entries.any fun e => e.1 == k

/-- The value of a key. -/
def lookup? (m : OrderedMap κ ν) (k : κ) : Option ν :=
  (m.entries.find? fun e => e.1 == k).map (·.2)

/-- The keys, in their order. -/
def keys (m : OrderedMap κ ν) : List κ :=
  m.entries.map (·.1)

/-- The number of keys. -/
def size (m : OrderedMap κ ν) : Nat :=
  m.entries.length

/-- The entries with the value of `k` replaced. -/
def replace (k : κ) (v : ν) (es : List (κ × ν)) : List (κ × ν) :=
  es.map fun e => if e.1 == k then (e.1, v) else e

@[simp] theorem map_fst_replace (k : κ) (v : ν) (es : List (κ × ν)) :
    (replace k v es).map (·.1) = es.map (·.1) := by
  simp only [replace, List.map_map]
  apply List.map_congr_left
  intro e _
  simp only [Function.comp_apply]
  split <;> rfl

/-- Distinctness speaks of the keys alone. -/
theorem pairwise_iff_keys {es : List (κ × ν)} :
    (es.Pairwise fun a b => (a.1 == b.1) = false) ↔
      (es.map (·.1)).Pairwise fun a b => (a == b) = false := by
  rw [List.pairwise_map]

/-- Gives a key a value. A key that is present keeps its place; a new key goes to the end. -/
def insert (m : OrderedMap κ ν) (k : κ) (v : ν) : OrderedMap κ ν :=
  if h : m.contains k then
    ⟨replace k v m.entries, by
      rw [pairwise_iff_keys, map_fst_replace, ← pairwise_iff_keys]
      exact m.distinct⟩
  else
    ⟨m.entries ++ [(k, v)], by
      simp only [contains, List.any_eq_true, not_exists, not_and] at h
      rw [List.pairwise_append]
      refine ⟨m.distinct, List.pairwise_singleton _ _, ?_⟩
      intro a ha b hb
      rw [List.mem_singleton] at hb
      subst hb
      exact Bool.eq_false_iff.mpr (h a ha)⟩

/-- The map of a list of entries: the first place and the last value of each key. -/
def ofList (es : List (κ × ν)) : OrderedMap κ ν :=
  es.foldl (fun m e => m.insert e.1 e.2) empty

/-- The first map with the entries of the second one inserted into it, in their order. -/
def update (m other : OrderedMap κ ν) : OrderedMap κ ν :=
  other.entries.foldl (fun m e => m.insert e.1 e.2) m

theorem entries_insert (m : OrderedMap κ ν) (k : κ) (v : ν) :
    (m.insert k v).entries =
      if m.contains k then replace k v m.entries else m.entries ++ [(k, v)] := by
  unfold insert
  split <;> rfl

theorem keys_insert (m : OrderedMap κ ν) (k : κ) (v : ν) :
    (m.insert k v).keys = if m.contains k then m.keys else m.keys ++ [k] := by
  unfold keys
  rw [entries_insert]
  split
  · exact map_fst_replace k v m.entries
  · simp

/-- Where the key is present, replacing its value makes it the first value found. -/
theorem find?_replace (k : κ) (v : ν) {es : List (κ × ν)} (h : (es.any fun e => e.1 == k) = true) :
    ((replace k v es).find? fun e => e.1 == k).map (·.2) = some v := by
  induction es with
  | nil => simp at h
  | cons a as ih =>
    by_cases ha : (a.1 == k) = true
    · simp [replace, ha]
    · have has : (as.any fun e => e.1 == k) = true := by simpa [ha] using h
      simpa [replace, ha] using ih has

@[simp] theorem lookup?_insert_self [ReflBEq κ] (m : OrderedMap κ ν) (k : κ) (v : ν) :
    (m.insert k v).lookup? k = some v := by
  unfold lookup?
  rw [entries_insert]
  split
  next h => exact find?_replace k v h
  next h =>
    have hnone : (m.entries.find? fun e => e.1 == k) = none := by
      simpa [contains, List.find?_eq_none] using h
    simp [List.find?_append, hnone]

end OrderedMap

end BlockingQuery
