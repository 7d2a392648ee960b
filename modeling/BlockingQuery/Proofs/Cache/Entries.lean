import BlockingQuery.Cache.Resource
import BlockingQuery.Proofs.Cache.View
import Mathlib.Data.List.TakeWhile

/-!
# Entries below a root

A cache of the entries below a root files each of them under its path without the root, and without
the slashes that follow the root. Two paths come to the same key when they differ in nothing but the
number of those slashes (`Keying.SlashTwins`), and then the later entry takes the place of the
earlier one. So the snapshot of an answer holds an entry for each entry of the answer when no two
of its paths are such twins, and only then (`Cache.kept_iff`).
-/

namespace BlockingQuery

open Text

/-! ## Paths -/

namespace Keying

/-- The paths begin with the root, and then differ only in how many slashes they have next. -/
def SlashTwins (root p q : CodePoints) : Prop :=
  ∃ m n rest, p = root ++ List.replicate m '/'.val ++ rest ∧
    q = root ++ List.replicate n '/'.val ++ rest

/-- What an entry is filed under. -/
def filed (root path : CodePoints) : CodePoints :=
  if root.isEmpty then path else relative root path

/-- Slashes at the beginning of a path make no difference once they are trimmed. -/
@[simp] theorem trimSlashes_replicate (n : Nat) (path : CodePoints) :
    trimSlashes (List.replicate n '/'.val ++ path) = trimSlashes path :=
  List.dropWhile_append_of_pos (by simp +contextual [List.mem_replicate])

/-- A path is the slashes that it begins with, and then what is left when they are trimmed. -/
theorem exists_eq_replicate (path : CodePoints) :
    ∃ n, path = List.replicate n '/'.val ++ trimSlashes path := by
  refine ⟨(path.takeWhile (· == '/'.val)).length, ?_⟩
  have hslashes : path.takeWhile (· == '/'.val) =
      List.replicate (path.takeWhile (· == '/'.val)).length '/'.val :=
    List.eq_replicate_iff.2 ⟨rfl, fun c hc => by simpa using List.mem_takeWhile_imp hc⟩
  rw [← hslashes]
  exact List.takeWhile_append_dropWhile.symm

/-- A path below the root is taken without the slashes at both its ends. -/
@[simp] theorem relative_append (root path : CodePoints) :
    relative root (root ++ path) = trimSlashes path := by
  simp [relative]

/-- Two paths below a root are filed under the same key when they are twins. -/
theorem relative_eq_iff {root p q : CodePoints} (hp : root <+: p) (hq : root <+: q) :
    relative root p = relative root q ↔ SlashTwins root p q := by
  obtain ⟨p, rfl⟩ := hp
  obtain ⟨q, rfl⟩ := hq
  rw [relative_append, relative_append]
  constructor
  · intro h
    obtain ⟨m, hm⟩ := exists_eq_replicate p
    obtain ⟨n, hn⟩ := exists_eq_replicate q
    refine ⟨m, n, trimSlashes p, ?_, ?_⟩
    · rw [List.append_assoc, ← hm]
    · rw [h, List.append_assoc, ← hn]
  · rintro ⟨m, n, rest, hm, hn⟩
    rw [List.append_assoc, List.append_cancel_left_eq] at hm hn
    rw [hm, hn, trimSlashes_replicate, trimSlashes_replicate]

/-- Below every root but the empty one there are two paths that are filed under the same key. -/
theorem exists_filed_eq {root : CodePoints} (h : root ≠ []) :
    ∃ p q, p ≠ q ∧ root <+: p ∧ root <+: q ∧ filed root p = filed root q := by
  refine ⟨root, root ++ ['/'.val], by simp, List.prefix_rfl, List.prefix_append _ _, ?_⟩
  have hroot : root.isEmpty = false := by simpa using h
  rw [filed, filed, hroot]
  exact (relative_eq_iff List.prefix_rfl (List.prefix_append _ _)).2 ⟨0, 1, [], by simp, by simp⟩

end Keying

/-! ## Entries -/

/-- The path of an entry. -/
def Json.path? : Json → Option CodePoints
  | .obj members => match Json.member? (CodePoints.ofString "Key") members with
    | some (.str path) => some path
    | _ => none
  | _ => none

/-- Entities with their keys, if those depend on nothing but something that can be read in the
entities. -/
theorem Setup.keyed_of_read {α : Type} {c : Setup} {read? : Json → Option α} {key : α → Key}
    (hkey : ∀ {v x}, read? v = some x → c.key v = .ok (key x)) {vs : List Json} {xs : List α}
    (hread : vs.map read? = xs.map some) :
    ∃ es, c.keyed vs = .ok es ∧ es.map (·.2) = vs ∧ es.map (·.1) = xs.map key := by
  induction vs generalizing xs with
  | nil =>
    obtain rfl : xs = [] := by simpa using hread.symm
    exact ⟨[], rfl, rfl, rfl⟩
  | cons v vs ih =>
    obtain ⟨x, xs, rfl⟩ : ∃ x rest, xs = x :: rest := by
      cases xs with
      | nil => simp at hread
      | cons x rest => exact ⟨x, rest, rfl⟩
    obtain ⟨hfirst, hrest⟩ := List.cons_eq_cons.1 hread
    obtain ⟨es, hes, hvs, hkeys⟩ := ih hrest
    refine ⟨(key x, v) :: es, ?_, ?_, ?_⟩
    · rw [Setup.keyed, hkey hfirst, hes]
      rfl
    · rw [List.map_cons, hvs]
    · rw [List.map_cons, List.map_cons, hkeys]

namespace Resource

/-- A root as the paths below it begin. -/
def pathOf (root : String) : CodePoints :=
  (trimRoot root).map Char.val

section
variable {root : String} {client : Client} {config : Config Float} {params : Params}
  {name : Option String} {b : Behaviour} {c : Setup}

/-- A cache that is set up for a resource has the configuration that was given, in which nothing is
wrong, and the client. It polls the path of the resource and takes keys as the resource says. -/
theorem of_setup {r : Resource} (h : r.setup client config params name b = .ok c) :
    config.defects = [] ∧ (∃ text, Wait.write config.waitSeconds = .ok text) ∧
      c.config = config ∧ c.client = client ∧ c.path = r.polledPath ∧
      c.extract = r.extract b.stopAt := by
  unfold setup at h
  split at h
  next => cases h
  next => cases h
  next text hsound hwritten =>
    cases h
    exact ⟨hsound, ⟨text, hwritten⟩, rfl, rfl, rfl, rfl⟩

/-- The key of an entry is what its path is filed under. -/
theorem key_of_path? (h : (Resource.entries root).setup client config params name b = .ok c)
    {path : CodePoints} {entry : Json} (hpath : entry.path? = some path) :
    c.key entry = .ok (.text (Keying.filed (pathOf root) path)) := by
  have hmember : Keying.member "Key" entry = .ok (.str path) := by
    unfold Json.path? at hpath
    split at hpath
    next members =>
      split at hpath
      next hfound =>
        cases hpath
        rw [Keying.member, hfound]
      next => cases hpath
    next => cases hpath
  have hkey : (c.extract entry).key = .ok (.str (Keying.filed (pathOf root) path)) := by
    obtain ⟨-, -, -, -, -, hextract⟩ := of_setup h
    rw [hextract]
    change ((Keying.member "Key" entry).bind (Keying.keyBelow (pathOf root))) = _
    rw [hmember]
    change Keying.keyBelow (pathOf root) (.str path) = _
    unfold Keying.keyBelow Keying.filed
    split <;> rfl
  rw [Setup.key, hkey]
  rfl

/-- The entries of an answer with their keys. -/
theorem keyed_of_paths (h : (Resource.entries root).setup client config params name b = .ok c)
    {vs : List Json} {paths : List CodePoints} (hpaths : vs.map Json.path? = paths.map some) :
    ∃ es, c.keyed vs = .ok es ∧ es.map (·.2) = vs ∧
      es.map (·.1) = paths.map fun p => .text (Keying.filed (pathOf root) p) :=
  Setup.keyed_of_read (fun hpath => key_of_path? h hpath) hpaths

/-- The keys of entries are distinct when no two of them are twins. -/
theorem distinct_filed_iff {root : CodePoints} {paths : List CodePoints} (hdistinct : paths.Nodup)
    (hbelow : ∀ p ∈ paths, root <+: p) :
    ((paths.map fun p => Key.text (Keying.filed root p)).Pairwise fun a b => (a == b) = false) ↔
      root = [] ∨ paths.Pairwise fun p q => ¬Keying.SlashTwins root p q := by
  have hkey (p q : CodePoints) : (Key.text p == Key.text q) = (p == q) := rfl
  simp only [List.pairwise_map, hkey, beq_eq_false_iff_ne]
  by_cases hroot : root = []
  · subst hroot
    exact iff_of_true hdistinct (.inl rfl)
  · have hfiled (p : CodePoints) : Keying.filed root p = Keying.relative root p := by
      simp [Keying.filed, hroot]
    simp only [hfiled, hroot, false_or]
    refine List.Pairwise.iff_of_mem fun hp hq => ?_
    rw [ne_eq, Keying.relative_eq_iff (hbelow _ hp) (hbelow _ hq)]

end

end Resource

/-! ## Snapshots -/

namespace Cache

section
variable {root : String} {client : Client} {config : Config Float} {params : Params}
  {name : Option String} {b : Resource.Behaviour} {c : Setup} {s : Cache} {as : List Answer}
  {a : Answer} {paths : List CodePoints}

/-- An answer of entries with distinct paths below the root is adopted by a cache that knows no
index as high. The cache then shows no more entries than the answer has, and it shows all of them
when there is no root, or when no two of the paths differ only in the slashes after the root. If
two of them do, an entry is lost. -/
theorem kept_iff
    (hc : (Resource.entries root).setup client config params name b = .ok c)
    (h : Run c (as ++ [a]) s) (hnew : (c.view as).isBelow a = true)
    (hpaths : a.dataset.map Json.path? = paths.map some) (hdistinct : paths.Nodup)
    (hbelow : ∀ p ∈ paths, Resource.pathOf root <+: p) :
    s.snapshot.index = a.index ∧
    s.snapshot.entries.size ≤ paths.length ∧
    (s.snapshot.entries.size = paths.length ↔
      Resource.pathOf root = [] ∨
        paths.Pairwise fun p q => ¬Keying.SlashTwins (Resource.pathOf root) p q) ∧
    (s.snapshot.entries.size = paths.length →
      s.snapshot.entries.entries.map (·.2) = a.dataset) := by
  obtain ⟨es, hkeyed, hvs, hkeys⟩ := Resource.keyed_of_paths hc hpaths
  let new : Snapshot :=
    { entries := .ofList es, index := a.index, knownLeader := a.knownLeader,
      lastContactMs := a.lastContactMs }
  have hof : c.snapshotOf a = .ok new := by
    rw [Setup.snapshotOf, hkeyed]
    rfl
  have hshown : s.snapshot = new := by
    rw [snapshot_of_run h, Setup.view, List.foldl_append, List.foldl_cons, List.foldl_nil,
      ← Setup.view, Setup.adopted?, if_pos hnew, hof]
    rfl
  have hlength : es.length = paths.length := by
    rw [← List.length_map (f := Prod.fst), hkeys, List.length_map]
  have hdistinct' : (es.Pairwise fun a b => (a.1 == b.1) = false) ↔
      Resource.pathOf root = [] ∨
        paths.Pairwise fun p q => ¬Keying.SlashTwins (Resource.pathOf root) p q := by
    rw [OrderedMap.pairwise_iff_keys, hkeys, Resource.distinct_filed_iff hdistinct hbelow]
  obtain ⟨hle, hsize⟩ := OrderedMap.size_ofList es
  rw [hlength] at hle hsize
  rw [hshown]
  refine ⟨rfl, hle, hsize.trans hdistinct', fun hall => ?_⟩
  rw [OrderedMap.entries_ofList, OrderedMap.latest_eq_self (hsize.1 hall), hvs]

end

end Cache

/-- A cache of the entries below a root, whose application does nothing. -/
def Setup.sampleBelow (root : String) : Setup :=
  let r := Resource.entries root
  { name := r.standardName, path := r.polledPath, config := Config.standard
    params := r.params.update .empty, client := Setup.sample.client, extract := r.extract none
    listener := fun _ _ => [], observer := fun _ _ => [], openFault := fun _ => none
    closeFault := fun _ => none }

/-- The sample below a root is the setup that the root and a sound configuration give. -/
theorem Setup.setup_sampleBelow (root : String) :
    (Resource.entries root).setup Setup.sample.client Config.standard .empty none {} =
      .ok (.sampleBelow root) := by
  have hsound : Config.standard.defects = [] := by decide +kernel
  have hwritten : Wait.write Config.standard.waitSeconds = .ok "10s" := by decide +kernel
  simp only [Resource.setup, hsound, hwritten]
  rfl

/-- A cache of the entries below `app` that heard an answer with the index 5. -/
def Cache.sampleBelow (body : String) : Cache :=
  after (.sampleBelow "app")
    [.start, .respond none (.response 200 [("X-Consul-Index", "5")] body.toUTF8.toList)]
    (create { now := 0, draws := [], policy := none })

namespace Cache

/-- A cache that heard an answer with the index 5. -/
def heard (c : Setup) (body : String) : Cache :=
  after c [.start, .respond none (.response 200 [("X-Consul-Index", "5")] body.toUTF8.toList)]
    (create { now := 0, draws := [], policy := none })

/-- The answer that it heard, if the entities of the answer read as given. -/
theorem run_heard {α : Type} (c : Setup) (body : String) (read? : Json → Option α) (xs : List α)
    (h : (answers (heard c body).trace).map (fun a => (a.index, a.dataset.map read?)) =
      [(some 5, xs.map some)]) :
    ∃ a, Run c ([] ++ [a]) (heard c body) ∧ (c.view []).isBelow a = true ∧
      a.dataset.map read? = xs.map some := by
  obtain ⟨as, hrun⟩ := run_after c
    [.start, .respond none (.response 200 [("X-Consul-Index", "5")] body.toUTF8.toList)]
    { now := 0, draws := [], policy := none }
  have has : answers (heard c body).trace = as := (hasHistory_of_run hrun).answers
  rw [has] at h
  obtain ⟨a, rfl, ha⟩ := List.map_eq_singleton_iff.1 h
  obtain ⟨hindex, hread⟩ := Prod.mk.inj ha
  refine ⟨a, hrun, ?_, hread⟩
  rw [Setup.view, List.foldl_nil, Snapshot.isBelow, hindex]
  rfl

/-- The answer that such a cache of entries heard, if its entries have the given paths. -/
theorem heard_sampleBelow (body : String) (paths : List CodePoints)
    (h : (answers (sampleBelow body).trace).map (fun a => (a.index, a.dataset.map Json.path?)) =
      [(some 5, paths.map some)]) :
    ∃ a, Run (.sampleBelow "app") ([] ++ [a]) (sampleBelow body) ∧
      (Setup.view (.sampleBelow "app") []).isBelow a = true ∧
      a.dataset.map Json.path? = paths.map some :=
  run_heard _ body Json.path? paths h

/-- Two entries in different places are both kept. -/
theorem kept_iff_sample : ∃ body, (sampleBelow body).snapshot.entries.size = 2 ∧
    ¬Keying.SlashTwins (Resource.pathOf "app") (CodePoints.ofString "app/x")
      (CodePoints.ofString "app//y") := by
  let body := "[\x7b\"Key\": \"app/x\"\x7d, \x7b\"Key\": \"app//y\"\x7d]"
  let paths := [CodePoints.ofString "app/x", CodePoints.ofString "app//y"]
  obtain ⟨a, hrun, hnew, hpaths⟩ := heard_sampleBelow body paths (by decide +kernel)
  obtain ⟨-, -, hiff, -⟩ := kept_iff (Setup.setup_sampleBelow "app") hrun hnew hpaths
    (by decide +kernel) (by decide +kernel)
  have hsize : (sampleBelow body).snapshot.entries.size = 2 := by decide +kernel
  refine ⟨body, hsize, ?_⟩
  have hpair := (hiff.1 hsize).resolve_left (by decide +kernel)
  exact (List.pairwise_cons.1 hpair).1 _ List.mem_cons_self

/-- Whatever answer of entries with distinct paths below the root is adopted, the cache shows all
of its entries. -/
def KeepsAll (root : String) : Prop :=
  ∀ {client : Client} {config : Config Float} {params : Params} {name : Option String}
    {b : Resource.Behaviour} {c : Setup} {s : Cache} {as : List Answer} {a : Answer}
    {paths : List CodePoints},
    (Resource.entries root).setup client config params name b = .ok c →
    Run c (as ++ [a]) s → (c.view as).isBelow a = true →
    a.dataset.map Json.path? = paths.map some → paths.Nodup →
    (∀ p ∈ paths, Resource.pathOf root <+: p) →
    s.snapshot.entries.size = paths.length

/-- Of `app/x` and `app//x` only one is shown below the root `app`. -/
theorem not_keepsAll_of_slashes : ¬KeepsAll "app" := by
  let body := "[\x7b\"Key\": \"app/x\"\x7d, \x7b\"Key\": \"app//x\"\x7d]"
  let paths := [CodePoints.ofString "app/x", CodePoints.ofString "app//x"]
  obtain ⟨a, hrun, hnew, hpaths⟩ := heard_sampleBelow body paths (by decide +kernel)
  intro hkeeps
  have hsize : (sampleBelow body).snapshot.entries.size = 2 :=
    hkeeps (Setup.setup_sampleBelow "app") hrun hnew hpaths (by decide +kernel) (by decide +kernel)
  have hone : (sampleBelow body).snapshot.entries.size = 1 := by decide +kernel
  rw [hone] at hsize
  cases hsize

end Cache

end BlockingQuery
