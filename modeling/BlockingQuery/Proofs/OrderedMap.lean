import BlockingQuery.OrderedMap
import Mathlib.Data.List.Basic
import Mathlib.Data.List.Induction
import Mathlib.Data.List.Nodup

/-!
# What a map in insertion order holds

`OrderedMap.latest` says without any insertion what a list of entries amounts to: each key once,
where it comes first, and with it what is said of it last. `entries_ofList` is that inserting the
entries one after the other comes to the same, and `size_ofList` when every entry is kept.
-/

namespace BlockingQuery

section
variable {κ : Type} [BEq κ]

/-- Erasing repetitions leaves a part of the list. -/
theorem eraseDups_sublist (ks : List κ) : ks.eraseDups.Sublist ks := by
  match ks with
  | [] => exact .refl _
  | a :: as =>
    rw [List.eraseDups_cons]
    exact ((eraseDups_sublist _).trans List.filter_sublist).cons_cons a
termination_by ks.length
decreasing_by exact Nat.lt_succ_of_le (List.length_filter_le _ _)

/-- A last member that is a repetition is erased, and any other stays at the end. -/
theorem eraseDups_concat [EquivBEq κ] (k : κ) :
    ∀ ks : List κ, (ks ++ [k]).eraseDups =
      if ks.any (· == k) then ks.eraseDups else ks.eraseDups ++ [k]
  | [] => by simp [List.eraseDups_cons]
  | a :: as => by
    rw [List.cons_append, List.eraseDups_cons, List.filter_append, List.eraseDups_cons]
    by_cases ha : (k == a) = true
    · have hak : (a == k) = true := BEq.symm ha
      simp [ha, hak]
    · have hak : (a == k) = false := by
        rw [Bool.eq_false_iff]
        exact fun h => ha (BEq.symm h)
      -- The members that `a` repeats are not those that `k` repeats.
      have hany : (as.filter fun b => !b == a).any (· == k) = as.any (· == k) := by
        rw [List.any_filter]
        congr 1
        funext b
        by_cases hb : (b == k) = true
        · have hba : (b == a) = false := by
            rw [Bool.eq_false_iff]
            exact fun h => ha (BEq.trans (BEq.symm hb) h)
          simp [hb, hba]
        · simp [hb]
      have ih := eraseDups_concat k (as.filter fun b => !b == a)
      rw [List.filter_cons_of_pos (by simpa using ha), List.filter_nil, ih, hany,
        List.any_cons, hak, Bool.false_or]
      split <;> rfl
termination_by ks => ks.length
decreasing_by exact Nat.lt_succ_of_le (List.length_filter_le _ _)

end

namespace OrderedMap

variable {κ ν : Type} [BEq κ]

/-- What a list of entries says last of a key. -/
def last? (es : List (κ × ν)) (k : κ) : Option ν :=
  (es.reverse.find? fun e => e.1 == k).map (·.2)

/-- The entries that a list of entries amounts to: each key where it comes first, and with it what
is said of it last. -/
def latest (es : List (κ × ν)) : List (κ × ν) :=
  (es.map (·.1)).eraseDups.filterMap fun k => (last? es k).map fun v => (k, v)

/-- What is said last of a key is the last entry, if that speaks of the key. -/
theorem last?_concat (es : List (κ × ν)) (k : κ) (v : ν) (l : κ) :
    last? (es ++ [(k, v)]) l = if k == l then some v else last? es l := by
  unfold last?
  rw [List.reverse_append, List.reverse_singleton, List.singleton_append, List.find?_cons]
  split
  next h => simp [h]
  next h => simp [h]

/-- Every key of a list of entries has a last value. -/
theorem last?_of_mem [ReflBEq κ] {es : List (κ × ν)} {k : κ} (h : k ∈ es.map (·.1)) :
    ∃ v, last? es k = some v := by
  obtain ⟨e, he, rfl⟩ := List.mem_map.1 h
  have hfound : (es.reverse.find? fun f => f.1 == e.1).isSome := by
    rw [List.find?_isSome]
    exact ⟨e, List.mem_reverse.2 he, BEq.rfl⟩
  obtain ⟨f, hf⟩ := Option.isSome_iff_exists.1 hfound
  exact ⟨f.2, by simp [last?, hf]⟩

/-- The keys of a list of entries come each where it comes first. -/
theorem keys_latest [ReflBEq κ] (es : List (κ × ν)) :
    (latest es).map (·.1) = (es.map (·.1)).eraseDups := by
  unfold latest
  rw [List.map_filterMap]
  conv_rhs => rw [← List.filterMap_some (l := (es.map (·.1)).eraseDups)]
  apply List.filterMap_congr
  intro k hk
  obtain ⟨v, hv⟩ := last?_of_mem ((eraseDups_sublist _).mem hk)
  simp [hv]

/-- Whether a key repeats one of the keys before it can be told from the keys without repetitions.
-/
theorem any_eraseDups [EquivBEq κ] (k : κ) (ks : List κ) :
    ks.eraseDups.any (· == k) = ks.any (· == k) := by
  induction ks using List.reverseRecOn with
  | nil => rfl
  | append_singleton ks l ih =>
    rw [eraseDups_concat]
    split
    next h =>
      rw [ih, List.any_append, List.any_cons, List.any_nil, Bool.or_false]
      by_cases hl : (l == k) = true
      · obtain ⟨m, hm, hml⟩ := List.any_eq_true.1 h
        have hany : ks.any (· == k) = true := List.any_eq_true.2 ⟨m, hm, BEq.trans hml hl⟩
        rw [hany, Bool.true_or]
      · simp [hl]
    next h => rw [List.any_append, ih, List.any_append]

/-- A new value of a key that is present takes the place of the one before. -/
theorem latest_concat_of_any [EquivBEq κ] {es : List (κ × ν)} {k : κ} (v : ν)
    (h : (es.map (·.1)).any (· == k) = true) :
    latest (es ++ [(k, v)]) = replace k v (latest es) := by
  unfold latest replace
  rw [List.map_append, List.map_singleton, eraseDups_concat, if_pos h, List.map_filterMap]
  apply List.filterMap_congr
  intro l hl
  obtain ⟨w, hw⟩ := last?_of_mem ((eraseDups_sublist _).mem hl)
  rw [last?_concat, hw]
  by_cases hkl : (k == l) = true
  · have hlk : (l == k) = true := BEq.symm hkl
    simp [hkl, hlk]
  · have hlk : (l == k) = false := by
      rw [Bool.eq_false_iff]
      exact fun h => hkl (BEq.symm h)
    simp [hkl, hlk]

/-- A key that is not present comes last. -/
theorem latest_concat_of_not_any [EquivBEq κ] {es : List (κ × ν)} {k : κ} (v : ν)
    (h : (es.map (·.1)).any (· == k) = false) :
    latest (es ++ [(k, v)]) = latest es ++ [(k, v)] := by
  unfold latest
  rw [List.map_append, List.map_singleton, eraseDups_concat, h, if_neg Bool.false_ne_true,
    List.filterMap_append]
  congr 1
  · apply List.filterMap_congr
    intro l hl
    have hkl : (k == l) = false := by
      rw [Bool.eq_false_iff]
      intro hkl
      have hany : (es.map (·.1)).any (· == k) = true :=
        List.any_eq_true.2 ⟨l, (eraseDups_sublist _).mem hl, BEq.symm hkl⟩
      rw [h] at hany
      exact Bool.false_ne_true hany
    rw [last?_concat, hkl, if_neg Bool.false_ne_true]
  · simp [last?_concat]

/-- The last entry is inserted last. -/
@[simp] theorem ofList_concat (es : List (κ × ν)) (k : κ) (v : ν) :
    ofList (es ++ [(k, v)]) = (ofList es).insert k v := by
  simp [ofList, List.foldl_append]

/-- Inserting entries one after the other leaves each key where it came first, with what was said
of it last. -/
@[simp] theorem entries_ofList [EquivBEq κ] (es : List (κ × ν)) :
    (ofList es).entries = latest es := by
  induction es using List.reverseRecOn with
  | nil => rfl
  | append_singleton es e ih =>
    obtain ⟨k, v⟩ := e
    have hcontains : (ofList es).contains k = (es.map (·.1)).any (· == k) := by
      rw [← any_eraseDups, ← keys_latest, ← ih, contains, List.any_map]
      rfl
    rw [ofList_concat, entries_insert, hcontains, ih]
    split
    next h => exact (latest_concat_of_any v h).symm
    next h => exact (latest_concat_of_not_any v (Bool.eq_false_iff.2 h)).symm

/-- Entries with distinct keys are what they amount to. -/
theorem latest_eq_self [EquivBEq κ] {es : List (κ × ν)}
    (h : es.Pairwise fun a b => (a.1 == b.1) = false) : latest es = es := by
  induction es using List.reverseRecOn with
  | nil => rfl
  | append_singleton es e ih =>
    obtain ⟨k, v⟩ := e
    obtain ⟨hbefore, -, hlast⟩ := List.pairwise_append.1 h
    have hnew : (es.map (·.1)).any (· == k) = false := by
      simpa using fun l w hl => hlast (l, w) hl (k, v) List.mem_cons_self
    rw [latest_concat_of_not_any v hnew, ih hbefore]

/-- There are no more keys than entries, and as many only if no two entries have the same key. -/
theorem size_ofList [EquivBEq κ] (es : List (κ × ν)) :
    (ofList es).size ≤ es.length ∧
      ((ofList es).size = es.length ↔ es.Pairwise fun a b => (a.1 == b.1) = false) := by
  have hsize : (ofList es).size = (es.map (·.1)).eraseDups.length := by
    rw [size, entries_ofList, ← keys_latest, List.length_map]
  have hsub := eraseDups_sublist (es.map (·.1))
  refine ⟨?_, fun hall => ?_, fun hdistinct => ?_⟩
  · rw [hsize, ← List.length_map (f := Prod.fst)]
    exact hsub.length_le
  · have hkeys : (es.map (·.1)).eraseDups = es.map (·.1) :=
      hsub.eq_of_length (by rw [← hsize, hall, List.length_map])
    rw [pairwise_iff_keys, ← hkeys, ← keys_latest, ← entries_ofList, ← pairwise_iff_keys]
    exact (ofList es).distinct
  · rw [size, entries_ofList, latest_eq_self hdistinct]

/-! ## Lookups -/

/-- Replacing the value of a key leaves the values of the others. -/
theorem find?_replace_of_ne [EquivBEq κ] {k l : κ} (v : ν) (es : List (κ × ν))
    (hkl : ¬(k == l) = true) :
    ((replace k v es).find? fun e => e.1 == l).map (·.2) =
      (es.find? fun e => e.1 == l).map (·.2) := by
  have hkey : (fun e : κ × ν => e.1 == l) ∘ (fun e => if e.1 == k then (e.1, v) else e) =
      fun e => e.1 == l := by
    funext e
    dsimp only [Function.comp_apply]
    split <;> rfl
  rw [replace, List.find?_map, hkey, Option.map_map]
  refine Option.map_congr fun e he => ?_
  have hel : (e.1 == l) = true := by simpa using List.find?_some he
  have hek : ¬(e.1 == k) = true := fun hek => hkl (BEq.trans (BEq.symm hek) hel)
  simp [hek]

/-- A key that is given a value has it, and the others have the values that they had. -/
theorem lookup?_insert [EquivBEq κ] (m : OrderedMap κ ν) (k : κ) (v : ν) (l : κ) :
    (m.insert k v).lookup? l = if k == l then some v else m.lookup? l := by
  by_cases hkl : (k == l) = true
  · have hsame : (fun e : κ × ν => e.1 == l) = fun e => e.1 == k :=
      funext fun e => (BEq.congr_right hkl).symm
    rw [if_pos hkl, ← lookup?_insert_self m k v, lookup?, hsame]
    rfl
  · rw [if_neg hkl, lookup?, entries_insert]
    split
    next => exact find?_replace_of_ne v m.entries hkl
    next => simp [List.find?_append, hkl, lookup?]

/-- What is inserted last of a key goes before what was there. -/
theorem lookup?_foldl_insert [EquivBEq κ] {es : List (κ × ν)}
    (h : es.Pairwise fun a b => (a.1 == b.1) = false) (m : OrderedMap κ ν) (l : κ) :
    (es.foldl (fun m e => m.insert e.1 e.2) m).lookup? l =
      ((es.find? fun e => e.1 == l).map (·.2)).or (m.lookup? l) := by
  induction es generalizing m with
  | nil => rfl
  | cons e es ih =>
    obtain ⟨hfirst, hrest⟩ := List.pairwise_cons.1 h
    rw [List.foldl_cons, ih hrest, lookup?_insert]
    by_cases hel : (e.1 == l) = true
    · have hnone : (es.find? fun f => f.1 == l) = none := by
        rw [List.find?_eq_none]
        intro f hf hfl
        have hef := hfirst f hf
        rw [BEq.trans hel (BEq.symm hfl)] at hef
        cases hef
      simp [hel, hnone]
    · simp [hel]

/-- What an update says of a key goes before what was there. -/
theorem lookup?_update [EquivBEq κ] (m other : OrderedMap κ ν) (l : κ) :
    (m.update other).lookup? l = (other.lookup? l).or (m.lookup? l) :=
  lookup?_foldl_insert other.distinct m l

/-- The value of a key in the map of a list of entries is what the list says last of the key. -/
@[simp] theorem lookup?_ofList [EquivBEq κ] (es : List (κ × ν)) (k : κ) :
    (ofList es).lookup? k = last? es k := by
  induction es using List.reverseRecOn with
  | nil => rfl
  | append_singleton es e ih => rw [ofList_concat, lookup?_insert, last?_concat, ih]

/-- Reading the entries one after the other finds the value of a key. -/
theorem lookup_entries [LawfulBEq κ] (m : OrderedMap κ ν) (k : κ) :
    m.entries.lookup k = m.lookup? k := by
  obtain ⟨es, hdistinct⟩ := m
  unfold lookup?
  dsimp only
  clear hdistinct
  induction es with
  | nil => rfl
  | cons e es ih =>
    rw [List.lookup_cons, List.find?_cons, BEq.comm, ih]
    cases e.1 == k <;> rfl

/-- No key comes twice. -/
theorem nodup_keys [LawfulBEq κ] (m : OrderedMap κ ν) : (m.entries.map (·.1)).Nodup := by
  refine (pairwise_iff_keys.1 m.distinct).imp fun {a b} hab heq => ?_
  rw [heq, BEq.rfl] at hab
  cases hab

/-- The value of a key is the one that an entry gives it. -/
theorem lookup?_eq_some_iff [LawfulBEq κ] {m : OrderedMap κ ν} {k : κ} {v : ν} :
    m.lookup? k = some v ↔ (k, v) ∈ m.entries := by
  constructor
  · intro h
    obtain ⟨e, he, rfl⟩ := Option.map_eq_some_iff.1 h
    obtain rfl : e.1 = k := by simpa using List.find?_some he
    exact List.mem_of_find?_eq_some he
  · intro h
    obtain ⟨e, he⟩ : ∃ e, (m.entries.find? fun e => e.1 == k) = some e :=
      Option.isSome_iff_exists.1 (List.find?_isSome.2 ⟨(k, v), h, BEq.rfl⟩)
    have hkey : e.1 = k := by simpa using List.find?_some he
    have heq : e = (k, v) :=
      List.inj_on_of_nodup_map m.nodup_keys (List.mem_of_find?_eq_some he) h hkey
    rw [lookup?, he, heq]
    rfl

end OrderedMap

end BlockingQuery
