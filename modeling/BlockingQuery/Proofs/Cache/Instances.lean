import BlockingQuery.Proofs.Cache.Entries

/-!
# Instances of a service

A cache of the health of a service files each instance under its node and its ID, with a slash
between the two. Nodes and IDs may have slashes of their own, and those are not escaped, so the
same key can be cut in more than one place (`Instance.Overlaps`). Instances whose keys are cut in
different places are taken for one another, and then the later one takes the place of the earlier
one. So the snapshot of an answer holds every instance when no two of them overlap, and only then
(`Cache.instances_kept_iff`).
-/

namespace BlockingQuery

open Text

/-! ## Keys -/

/-- An instance of a service on a node. -/
structure Instance where
  node : CodePoints
  id : CodePoints
  deriving DecidableEq, Repr

namespace Instance

/-- What an instance is filed under. -/
def filed (i : Instance) : CodePoints :=
  i.node ++ '/'.val :: i.id

/-- The node of `j` is that of `i` with a slash and the beginning of the ID of `i` after it, and the
ID of `j` is what follows in that of `i` after a slash. -/
def Overlaps (i j : Instance) : Prop :=
  ∃ middle, j.node = i.node ++ '/'.val :: middle ∧ i.id = middle ++ '/'.val :: j.id

section
variable {i j : Instance}

/-- Instances that overlap are filed under the same key. -/
theorem Overlaps.filed_eq (h : i.Overlaps j) : i.filed = j.filed := by
  obtain ⟨middle, hnode, hid⟩ := h
  rw [filed, filed, hnode, hid, List.append_assoc, List.cons_append]

/-- Of instances that overlap, the later node and the earlier ID have a slash. -/
theorem Overlaps.slashes (h : i.Overlaps j) : '/'.val ∈ j.node ∧ '/'.val ∈ i.id := by
  obtain ⟨middle, hnode, hid⟩ := h
  rw [hnode, hid]
  exact ⟨List.mem_append_right _ List.mem_cons_self, List.mem_append_right _ List.mem_cons_self⟩

/-- Where the node of one instance begins with the node of another one, and they are filed under the
same key, the first overlaps the second or is the same. -/
theorem eq_or_overlaps_of_append {rest : CodePoints} (hnode : j.node = i.node ++ rest)
    (hrest : '/'.val :: i.id = rest ++ '/'.val :: j.id) : i = j ∨ i.Overlaps j := by
  cases rest with
  | nil =>
    rw [List.append_nil] at hnode
    obtain ⟨-, hid⟩ := List.cons_eq_cons.1 hrest
    left
    cases i
    cases j
    cases hnode
    cases hid
    rfl
  | cons c middle =>
    rw [List.cons_append] at hrest
    obtain ⟨rfl, hid⟩ := List.cons_eq_cons.1 hrest
    exact .inr ⟨middle, hnode, hid⟩

/-- Two instances are filed under the same key just if they are the same or overlap. -/
theorem filed_eq_iff : i.filed = j.filed ↔ i = j ∨ i.Overlaps j ∨ j.Overlaps i := by
  constructor
  · intro h
    obtain ⟨rest, hnode, hrest⟩ | ⟨rest, hnode, hrest⟩ := List.append_eq_append_iff.1 h
    · exact (eq_or_overlaps_of_append hnode hrest).imp_right .inl
    · exact (eq_or_overlaps_of_append hnode hrest).imp Eq.symm .inr
  · rintro (rfl | h | h)
    · rfl
    · exact h.filed_eq
    · exact h.filed_eq.symm

/-- The keys of instances are distinct when no two of them overlap. -/
theorem distinct_filed_iff {instances : List Instance} (hdistinct : instances.Nodup) :
    ((instances.map fun i => Key.text i.filed).Pairwise fun a b => (a == b) = false) ↔
      instances.Pairwise fun i j => ¬i.Overlaps j ∧ ¬j.Overlaps i := by
  have hkey (p q : CodePoints) : (Key.text p == Key.text q) = (p == q) := rfl
  simp only [List.pairwise_map, hkey, beq_eq_false_iff_ne, ne_eq, filed_eq_iff, not_or]
  rw [List.pairwise_and_iff]
  exact and_iff_right hdistinct

/-- Instances do not overlap where there are no slashes in nodes, or none in IDs. -/
theorem pairwise_of_slashless {instances : List Instance}
    (h : (∀ i ∈ instances, '/'.val ∉ i.node) ∨ ∀ i ∈ instances, '/'.val ∉ i.id) :
    instances.Pairwise fun i j => ¬i.Overlaps j ∧ ¬j.Overlaps i := by
  refine List.pairwise_of_forall_mem_list fun i hi j hj => ?_
  rcases h with hnodes | hids
  · exact ⟨fun ho => hnodes j hj ho.slashes.1, fun ho => hnodes i hi ho.slashes.1⟩
  · exact ⟨fun ho => hids i hi ho.slashes.2, fun ho => hids j hj ho.slashes.2⟩

end

end Instance

/-! ## Entities -/

/-- A text in a field of an object that is in a field. -/
def Json.textIn? (outer inner : String) : Json → Option CodePoints
  | .obj members => match Json.member? (CodePoints.ofString outer) members with
    | some (.obj fields) => match Json.member? (CodePoints.ofString inner) fields with
      | some (.str text) => some text
      | _ => none
    | _ => none
  | _ => none

/-- The instance that an entity tells the health of. -/
def Json.instance? (entity : Json) : Option Instance := do
  let node ← entity.textIn? "Node" "Node"
  let id ← entity.textIn? "Service" "ID"
  return { node, id }

/-- A text in a field of a field is found. -/
theorem Keying.member_of_textIn? {outer inner : String} {entity : Json} {text : CodePoints}
    (h : entity.textIn? outer inner = some text) :
    ∃ v, member outer entity = .ok v ∧ member inner v = .ok (.str text) := by
  unfold Json.textIn? at h
  split at h
  next members =>
    split at h
    next fields hfields =>
      split at h
      next hfound =>
        cases h
        exact ⟨.obj fields, by rw [member, hfields], by rw [member, hfound]⟩
      next => cases h
    next => cases h
  next => cases h

/-- The key of an entity is what its instance is filed under. -/
theorem Resource.key_of_instance? {name : String} {passing : Bool} {client : Client}
    {config : Config Float} {params : Params} {given : Option String} {b : Behaviour} {c : Setup}
    (h : (Resource.health name passing).setup client config params given b = .ok c)
    {entity : Json} {i : Instance} (hinstance : entity.instance? = some i) :
    c.key entity = .ok (.text i.filed) := by
  unfold Json.instance? at hinstance
  obtain ⟨node, hnode, hinstance⟩ := Option.bind_eq_some_iff.1 hinstance
  obtain ⟨id, hid, hi⟩ := Option.bind_eq_some_iff.1 hinstance
  cases hi
  obtain ⟨v, hv, hnode⟩ := Keying.member_of_textIn? hnode
  obtain ⟨w, hw, hid⟩ := Keying.member_of_textIn? hid
  have hkey : Keying.keyOf .instanceOnNode entity = .ok (.str (Instance.filed ⟨node, id⟩)) := by
    simp only [Keying.keyOf, hv, hw, hnode, hid, bind, Except.bind]
    rfl
  obtain ⟨-, -, -, -, -, hextract⟩ := of_setup h
  rw [Setup.key, hextract]
  change ((Keying.keyOf .instanceOnNode entity).bind _) = _
  rw [hkey]
  rfl

/-! ## Snapshots -/

namespace Cache

section
variable {client : Client} {config : Config Float} {params : Params} {given : Option String}
  {b : Resource.Behaviour} {c : Setup} {s : Cache} {as : List Answer} {a : Answer}

/-- An answer whose entities have keys is adopted by a cache that knows no index as high. The cache
then shows each key once, and all of the entities just if no two of them have the same key. -/
theorem shown_of_keys {keys : List Key} {es : List (Key × Json)}
    (h : Run c (as ++ [a]) s) (hnew : (c.view as).isBelow a = true)
    (hkeyed : c.keyed a.dataset = .ok es) (hentities : es.map (·.2) = a.dataset)
    (hkeys : es.map (·.1) = keys) :
    s.snapshot.index = a.index ∧
    s.snapshot.entries.size ≤ keys.length ∧
    (s.snapshot.entries.size = keys.length ↔ keys.Pairwise fun a b => (a == b) = false) ∧
    (s.snapshot.entries.size = keys.length →
      s.snapshot.entries.entries = keys.zip a.dataset) := by
  obtain ⟨new, hof, hentries, hindex⟩ : ∃ new : Snapshot, c.snapshotOf a = .ok new ∧
      new.entries = .ofList es ∧ new.index = a.index := by
    rw [Setup.snapshotOf, hkeyed]
    exact ⟨_, rfl, rfl, rfl⟩
  have hshown : s.snapshot = new := by
    rw [snapshot_of_run h, Setup.view, List.foldl_append, List.foldl_cons, List.foldl_nil,
      ← Setup.view, Setup.adopted?, if_pos hnew, hof]
    rfl
  have hlength : es.length = keys.length := by
    rw [← hkeys, List.length_map]
  obtain ⟨hle, hsize⟩ := OrderedMap.size_ofList es
  rw [hlength] at hle hsize
  rw [hshown, hentries]
  refine ⟨hindex, hle, ?_, fun hall => ?_⟩
  · rw [hsize, OrderedMap.pairwise_iff_keys, hkeys]
  · rw [OrderedMap.entries_ofList, OrderedMap.latest_eq_self (hsize.1 hall)]
    exact List.zip_of_prod hkeys hentities

/-- An answer with distinct instances is adopted by a cache of the health of a service that knows no
index as high. The cache then shows no more instances than the answer has, and it shows all of them,
each under its own key, when no two of them overlap, as where no node has a slash, or no ID. If two
of them do overlap, an instance is lost. -/
theorem instances_kept_iff {name : String} {passing : Bool} {instances : List Instance}
    (hc : (Resource.health name passing).setup client config params given b = .ok c)
    (h : Run c (as ++ [a]) s) (hnew : (c.view as).isBelow a = true)
    (hinstances : a.dataset.map Json.instance? = instances.map some)
    (hdistinct : instances.Nodup) :
    s.snapshot.index = a.index ∧
    s.snapshot.entries.size ≤ instances.length ∧
    (s.snapshot.entries.size = instances.length ↔
      instances.Pairwise fun i j => ¬i.Overlaps j ∧ ¬j.Overlaps i) ∧
    (s.snapshot.entries.size = instances.length →
      s.snapshot.entries.entries =
        (instances.map fun i => Key.text i.filed).zip a.dataset) ∧
    (((∀ i ∈ instances, '/'.val ∉ i.node) ∨ ∀ i ∈ instances, '/'.val ∉ i.id) →
      s.snapshot.entries.size = instances.length) := by
  obtain ⟨es, hkeyed, hentities, hkeys⟩ :=
    Setup.keyed_of_read (fun hi => Resource.key_of_instance? hc hi) hinstances
  obtain ⟨hindex, hle, hiff, hall⟩ := shown_of_keys h hnew hkeyed hentities hkeys
  rw [List.length_map] at hle hiff hall
  rw [Instance.distinct_filed_iff hdistinct] at hiff
  exact ⟨hindex, hle, hiff, hall, fun hslashless =>
    hiff.2 (Instance.pairwise_of_slashless hslashless)⟩

end

end Cache

/-- A cache of the health of a service, whose application does nothing. -/
def Setup.sampleHealth : Setup :=
  let r := Resource.health "web" false
  { Setup.sampleBelow "web" with
    name := r.standardName, path := r.polledPath, params := r.params.update .empty
    extract := r.extract none }

/-- The sample for instances is the setup that a sound configuration gives. -/
theorem Setup.setup_sampleHealth :
    (Resource.health "web" false).setup Setup.sample.client Config.standard .empty none {} =
      .ok .sampleHealth := by
  have hsound : Config.standard.defects = [] := by decide +kernel
  have hwritten : Wait.write Config.standard.waitSeconds = .ok "10s" := by decide +kernel
  simp only [Resource.setup, hsound, hwritten]
  rfl

namespace Cache

/-- Instances of the same ID on two nodes are both kept. -/
theorem instances_kept_iff_sample : ∃ body,
    (heard .sampleHealth body).snapshot.entries.size = 2 ∧
    (heard .sampleHealth body).snapshot.entries.entries.map (·.1) =
      [.text (CodePoints.ofString "n1/web"), .text (CodePoints.ofString "n2/web")] := by
  let body :=
    "[\x7b\"Node\": \x7b\"Node\": \"n1\"\x7d, \"Service\": \x7b\"ID\": \"web\"\x7d\x7d, " ++
    "\x7b\"Node\": \x7b\"Node\": \"n2\"\x7d, \"Service\": \x7b\"ID\": \"web\"\x7d\x7d]"
  let instances : List Instance :=
    [⟨CodePoints.ofString "n1", CodePoints.ofString "web"⟩,
      ⟨CodePoints.ofString "n2", CodePoints.ofString "web"⟩]
  obtain ⟨a, hrun, hnew, hread⟩ :=
    run_heard .sampleHealth body Json.instance? instances (by decide +kernel)
  obtain ⟨-, -, -, hall, hslashless⟩ :=
    instances_kept_iff Setup.setup_sampleHealth hrun hnew hread (by decide +kernel)
  have hsize := hslashless (.inl (by decide +kernel))
  have hlength : a.dataset.length = instances.length := by
    simpa only [List.length_map] using congrArg List.length hread
  refine ⟨body, hsize, ?_⟩
  rw [hall hsize, List.map_fst_zip (by rw [List.length_map, hlength])]
  rfl

/-- Whatever answer with distinct instances of a service is adopted, the cache shows all of them. -/
def KeepsInstances (name : String) (passing : Bool) : Prop :=
  ∀ {client : Client} {config : Config Float} {params : Params} {given : Option String}
    {b : Resource.Behaviour} {c : Setup} {s : Cache} {as : List Answer} {a : Answer}
    {instances : List Instance},
    (Resource.health name passing).setup client config params given b = .ok c →
    Run c (as ++ [a]) s → (c.view as).isBelow a = true →
    a.dataset.map Json.instance? = instances.map some → instances.Nodup →
    s.snapshot.entries.size = instances.length

/-- Of `b/c` on the node `a` and `c` on the node `a/b` only one is shown. -/
theorem not_keepsInstances_of_slashes : ¬KeepsInstances "web" false := by
  let body :=
    "[\x7b\"Node\": \x7b\"Node\": \"a\"\x7d, \"Service\": \x7b\"ID\": \"b/c\"\x7d\x7d, " ++
    "\x7b\"Node\": \x7b\"Node\": \"a/b\"\x7d, \"Service\": \x7b\"ID\": \"c\"\x7d\x7d]"
  let instances : List Instance :=
    [⟨CodePoints.ofString "a", CodePoints.ofString "b/c"⟩,
      ⟨CodePoints.ofString "a/b", CodePoints.ofString "c"⟩]
  obtain ⟨a, hrun, hnew, hread⟩ :=
    run_heard .sampleHealth body Json.instance? instances (by decide +kernel)
  intro hkeeps
  have hsize : (heard .sampleHealth body).snapshot.entries.size = 2 :=
    hkeeps Setup.setup_sampleHealth hrun hnew hread (by decide +kernel)
  have hone : (heard .sampleHealth body).snapshot.entries.size = 1 := by decide +kernel
  rw [hone] at hsize
  cases hsize

end Cache

end BlockingQuery
