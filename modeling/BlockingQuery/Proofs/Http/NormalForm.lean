import BlockingQuery.Proofs.Failover.Retargeting
import Mathlib.Data.FinEnum
import Mathlib.Data.List.Basic

/-!
# URLs in normal form

A URL is in normal form (`Url.IsNormal`) when it is the normal form of some parts. Bringing such a
URL into normal form once more changes nothing: escapes are made of characters that need none
(`Percent.all_encode`), and a path without dot segments has none after it was escaped
(`Url.dotless_encode`). So replacing the host and the port of a URL in normal form leaves everything
else as it was (`Url.IsSettled.moved_withEndpoint`).
-/

namespace BlockingQuery

/-! ## Escapes -/

namespace Percent

/-- The characters that escapes are made of need no escape. -/
def KeepsEscapes (safe : Char → Bool) : Prop :=
  ∀ b : UInt8, (escape b).all safe = true

section
variable {safe : Char → Bool}

@[simp] theorem encode_append (cs ds : List Char) :
    encode safe (cs ++ ds) = encode safe cs ++ encode safe ds :=
  List.flatMap_append

/-- A text that needs no escape stays as it is. -/
theorem encode_of_all {cs : List Char} (h : cs.all safe = true) : encode safe cs = cs := by
  induction cs with
  | nil => rfl
  | cons c cs ih =>
    obtain ⟨hc, hcs⟩ := Bool.and_eq_true_iff.1 h
    rw [encode, List.flatMap_cons, if_pos hc, List.singleton_append]
    exact congrArg (c :: ·) (ih hcs)

/-- Escaping leaves no character that needs an escape. -/
theorem all_encode (h : KeepsEscapes safe) (cs : List Char) :
    (encode safe cs).all safe = true := by
  induction cs with
  | nil => rfl
  | cons c cs ih =>
    rw [encode, List.flatMap_cons, List.all_append]
    refine Bool.and_eq_true_iff.2 ⟨?_, ih⟩
    by_cases hc : safe c = true
    · rw [if_pos hc, List.all_cons, hc]
      rfl
    · rw [if_neg hc, List.all_flatMap, List.all_eq_true]
      exact fun b _ => h b

/-- A text without a percent sign after escaping needed no escape. -/
theorem encode_eq_self {cs : List Char} (h : '%' ∉ encode safe cs) : encode safe cs = cs := by
  refine encode_of_all (List.all_eq_true.2 fun c hc => ?_)
  by_contra hsafe
  refine h (List.mem_flatMap.2 ⟨c, hc, ?_⟩)
  rw [if_neg hsafe]
  cases hbytes : String.utf8EncodeChar c with
  | nil => exact absurd hbytes (by simp)
  | cons b bs => exact List.mem_append_left _ List.mem_cons_self

/-- A character that stands in no escape comes from itself. -/
theorem mem_of_mem_encode {c : Char} {cs : List Char} (hc : ∀ b, c ∉ escape b)
    (h : c ∈ encode safe cs) : c ∈ cs := by
  obtain ⟨d, hd, hmem⟩ := List.mem_flatMap.1 h
  by_cases hsafe : safe d = true
  · rw [if_pos hsafe, List.mem_singleton] at hmem
    exact hmem ▸ hd
  · rw [if_neg hsafe] at hmem
    obtain ⟨b, -, hb⟩ := List.mem_flatMap.1 hmem
    exact absurd hb (hc b)

end

end Percent

namespace Url

/-- The characters of escapes may stand in a path, a query, a fragment and in user information. -/
theorem keepsEscapes :
    Percent.KeepsEscapes isPathSafe ∧ Percent.KeepsEscapes isQuerySafe ∧
      Percent.KeepsEscapes isFragmentSafe ∧ Percent.KeepsEscapes isUserinfoSafe := by
  refine ⟨?_, ?_, ?_, ?_⟩ <;> unfold Percent.KeepsEscapes <;> decide +kernel

/-! ## Dot segments -/

/-- Whether a segment of a path is made of one dot or two. -/
def IsDots (segment : List Char) : Prop :=
  segment = ['.'] ∨ segment = ['.', '.']

/-- A path without dot segments. -/
def Dotless (path : List Char) : Prop :=
  ∀ s ∈ path.splitOn '/', ¬IsDots s

/-- No part between separators holds a separator. -/
theorem not_mem_of_mem_splitOn {sep : Char} {part cs : List Char} (h : part ∈ cs.splitOn sep) :
    sep ∉ part := by
  induction cs generalizing part with
  | nil =>
    rw [List.splitOn_nil, List.mem_singleton] at h
    rw [h]
    exact List.not_mem_nil
  | cons c cs ih =>
    rw [List.splitOn_cons_eq_if_modifyHead] at h
    split at h
    next =>
      rcases List.mem_cons.1 h with rfl | h
      · exact List.not_mem_nil
      · exact ih h
    next hc =>
      cases hsplit : cs.splitOn sep with
      | nil => exact absurd hsplit (List.splitOn_ne_nil sep cs)
      | cons first rest =>
        rw [hsplit] at h ih
        rcases List.mem_cons.1 h with rfl | h
        · exact fun hmem => (List.mem_cons.1 hmem).elim (fun heq => hc (by simp [heq]))
            (ih List.mem_cons_self)
        · exact ih (List.mem_cons_of_mem _ h)

/-- A path without dot segments stays as it is. -/
theorem resolveDots_of_dotless {path : List Char} (h : Dotless path) : resolveDots path = path := by
  have hnone : ((path.splitOn '/').any fun s => s == ['.'] || s == ['.', '.']) = false := by
    rw [List.any_eq_false]
    intro s hs
    simpa [IsDots] using h s hs
  rw [resolveDots, hnone]
  rfl

/-- The segments that are left are segments that were there, and no dots. -/
theorem mem_foldl_pushSegment {segments before : List (List Char)} {s : List Char}
    (h : s ∈ segments.foldl pushSegment before) : s ∈ before ∨ s ∈ segments ∧ ¬IsDots s := by
  induction segments generalizing before with
  | nil => exact .inl h
  | cons segment segments ih =>
    rcases ih h with hbefore | ⟨hs, hdots⟩
    · unfold pushSegment at hbefore
      split at hbefore
      next => exact .inl hbefore
      next hone =>
        split at hbefore
        next =>
          split at hbefore
          next => exact .inl hbefore
          next => exact .inl (List.mem_of_mem_tail hbefore)
        next htwo =>
          rcases List.mem_cons.1 hbefore with rfl | hs
          · exact .inr ⟨List.mem_cons_self, not_or.2 ⟨hone, htwo⟩⟩
          · exact .inl hs
    · exact .inr ⟨List.mem_cons_of_mem _ hs, hdots⟩

/-- Segments without slashes are those of the path that they make. -/
theorem dotless_intercalate {segments : List (List Char)}
    (h : ∀ s ∈ segments, '/' ∉ s ∧ ¬IsDots s) : Dotless (['/'].intercalate segments) := by
  by_cases hnil : segments = []
  · rw [hnil]
    intro s hs
    rw [List.mem_singleton.1 hs]
    simp [IsDots]
  · rw [Dotless, List.splitOn_intercalate '/' (fun s hs => (h s hs).1) hnil]
    exact fun s hs => (h s hs).2

/-- A path whose dot segments are resolved has none. -/
theorem dotless_resolveDots (path : List Char) : Dotless (resolveDots path) := by
  rw [resolveDots]
  split
  next =>
    refine dotless_intercalate fun s hs => ?_
    obtain ⟨hs, hdots⟩ :=
      (mem_foldl_pushSegment (List.mem_reverse.1 hs)).resolve_left List.not_mem_nil
    exact ⟨not_mem_of_mem_splitOn hs, hdots⟩
  next hnone =>
    intro s hs hdots
    refine hnone (List.any_eq_true.2 ⟨s, hs, ?_⟩)
    simpa [IsDots] using hdots

/-- Escaping a path escapes its segments, if slashes stay. -/
theorem encode_intercalate {safe : Char → Bool} (hsafe : safe '/' = true)
    (segments : List (List Char)) :
    Percent.encode safe (['/'].intercalate segments) =
      ['/'].intercalate (segments.map (Percent.encode safe)) := by
  induction segments with
  | nil => rfl
  | cons s rest ih =>
    cases rest with
    | nil => simp
    | cons t rest =>
      have hslash : Percent.encode safe ['/'] = ['/'] :=
        Percent.encode_of_all (by simpa using hsafe)
      rw [List.intercalate_cons_cons, Percent.encode_append, Percent.encode_append, ih, hslash]
      exact (List.intercalate_cons_cons ..).symm

/-- Escaping makes no dots. -/
theorem isDots_of_encode {safe : Char → Bool} {s : List Char}
    (h : IsDots (Percent.encode safe s)) : IsDots s := by
  have hplain : '%' ∉ Percent.encode safe s := by
    rcases h with h | h <;> simp [h]
  rwa [Percent.encode_eq_self hplain] at h

/-- Escaping leaves a dot segment one if dots stay. -/
theorem IsDots.encode {safe : Char → Bool} {s : List Char} (hsafe : safe '.' = true)
    (h : IsDots s) : IsDots (Percent.encode safe s) := by
  rwa [Percent.encode_of_all]
  rcases h with rfl | rfl <;> simp [hsafe]

/-- No escape holds a slash. -/
theorem slash_not_mem_escape : ∀ b, '/' ∉ Percent.escape b := by
  unfold Percent.escape
  decide +kernel

/-- A path has dot segments just if it has some after it was escaped, if slashes and dots stay. -/
theorem dotless_encode_iff {safe : Char → Bool} (hslash : safe '/' = true) (hdot : safe '.' = true)
    {path : List Char} : Dotless (Percent.encode safe path) ↔ Dotless path := by
  have hplain : ∀ s ∈ (path.splitOn '/').map (Percent.encode safe), '/' ∉ s := by
    intro s hs hmem
    obtain ⟨t, ht, rfl⟩ := List.mem_map.1 hs
    exact not_mem_of_mem_splitOn ht (Percent.mem_of_mem_encode slash_not_mem_escape hmem)
  have hsegments : (Percent.encode safe path).splitOn '/' =
      (path.splitOn '/').map (Percent.encode safe) := by
    have hpath : ['/'].intercalate (path.splitOn '/') = path := List.intercalate_splitOn '/'
    conv_lhs => rw [← hpath, encode_intercalate hslash]
    exact List.splitOn_intercalate '/' hplain (by simp [List.splitOn_ne_nil])
  unfold Dotless
  rw [hsegments, List.forall_mem_map]
  exact forall₂_congr fun s _ => not_congr ⟨isDots_of_encode, .encode hdot⟩

/-- A path without dot segments has none after it was escaped. -/
theorem dotless_encode {path : List Char} (h : Dotless path) :
    Dotless (Percent.encode isPathSafe path) :=
  (dotless_encode_iff rfl rfl).2 h

/-! ## Normal forms -/

/-- A URL is in normal form if it is the normal form of some parts. -/
def IsNormal (u : Url) : Prop :=
  ∃ p, ofParts p = .ok u

/-- What is left of a URL beside its host and its port changes no more when it is normalised. -/
structure IsSettled (u : Url) : Prop where
  scheme : u.scheme.map Char.toLower = u.scheme
  userinfo : u.userinfo.all isUserinfoSafe = true
  path : u.path.all isPathSafe = true
  dotless : Dotless u.path
  query : ∀ q, u.query = some q → q.all isQuerySafe = true
  fragment : ∀ f, u.fragment = some f → f.all isFragmentSafe = true

/-- `v` is `u` at another host and port. -/
def Moved (u v : Url) : Prop :=
  v = { u with host := v.host, port := v.port }

section
variable {u v w : Url} {p : Parts}

theorem Moved.refl (u : Url) : u.Moved u := rfl

theorem Moved.trans (h : u.Moved v) (k : v.Moved w) : u.Moved w := by
  rw [Moved] at h k ⊢
  rw [k, h]

theorem Moved.query (h : u.Moved v) : v.query = u.query := by
  rw [h]

/-- The normal form of parts has the normal forms of the parts beside the host and the port. Dot
segments are resolved where a scheme or an authority precedes the path. -/
theorem parts_of_ofParts (h : ofParts p = .ok u) :
    u.userinfo = Percent.encode isUserinfoSafe p.userinfo ∧
      u.query = p.query.map (Percent.encode isQuerySafe) ∧
      u.fragment = p.fragment.map (Percent.encode isFragmentSafe) ∧
      u.path = Percent.encode isPathSafe
        (if !u.scheme.isEmpty || (!u.userinfo.isEmpty || !u.host.isEmpty || u.port.isSome) then
          resolveDots p.path else p.path) := by
  unfold ofParts at h
  cases hhost : normalHost p.host with
  | error f => simp [hhost, bind, Except.bind] at h
  | ok host =>
    cases hport : normalPort p.scheme p.port with
    | error f => simp [hhost, hport, bind, Except.bind] at h
    | ok port =>
      simp only [hhost, hport, bind, Except.bind, pure, Except.pure] at h
      split at h
      · cases h
      · cases h
        exact ⟨rfl, rfl, rfl, rfl⟩

/-- What is no capital letter is its own small letter. -/
theorem toLower_eq_self {c : Char} (h : ¬('A'.val ≤ c.val ∧ c.val ≤ 'Z'.val)) : c.toLower = c :=
  dif_neg h

/-- A small letter is no capital. -/
@[simp] theorem toLower_toLower (c : Char) : c.toLower.toLower = c.toLower := by
  by_cases h : 'A'.val ≤ c.val ∧ c.val ≤ 'Z'.val
  · refine toLower_eq_self ?_
    have hsmall : c.toLower.val = c.val + ('a'.val - 'A'.val) := congrArg Char.val (dif_pos h)
    rw [hsmall]
    simp only [UInt32.le_iff_toNat_le, UInt32.toNat_add, UInt32.reduceSub, UInt32.reduceToNat,
      Char.reduceVal, Char.toNat_val, Nat.reducePow, not_and, not_le] at h ⊢
    omega
  · rw [toLower_eq_self h, toLower_eq_self h]

/-- A URL in normal form that has a scheme or a host is settled. -/
theorem IsNormal.isSettled (h : u.IsNormal) (hbefore : u.scheme ≠ [] ∨ u.host ≠ []) :
    u.IsSettled := by
  obtain ⟨p, h⟩ := h
  obtain ⟨huserinfo, hquery, hfragment, hpath⟩ := parts_of_ofParts h
  obtain ⟨kpath, kquery, kfragment, kuserinfo⟩ := keepsEscapes
  have hauthority : (!u.scheme.isEmpty ||
      (!u.userinfo.isEmpty || !u.host.isEmpty || u.port.isSome)) = true := by
    rcases hbefore with hne | hne <;> simp [hne]
  rw [if_pos hauthority] at hpath
  constructor
  case scheme =>
    rw [(ofParts_eq_ok h).2.2, List.map_map]
    exact List.map_congr_left fun c _ => toLower_toLower c
  case userinfo => exact huserinfo ▸ Percent.all_encode kuserinfo _
  case path => exact hpath ▸ Percent.all_encode kpath _
  case dotless => exact hpath ▸ dotless_encode (dotless_resolveDots p.path)
  case query =>
    intro q hq
    rw [hquery, Option.map_eq_some_iff] at hq
    obtain ⟨q, -, rfl⟩ := hq
    exact Percent.all_encode kquery q
  case fragment =>
    intro f hf
    rw [hfragment, Option.map_eq_some_iff] at hf
    obtain ⟨f, -, rfl⟩ := hf
    exact Percent.all_encode kfragment f

/-- A URL with another host and port is the same beside them. -/
theorem IsSettled.moved_withEndpoint {host : List Char} {port : Int} (h : u.IsSettled)
    (hv : u.withEndpoint host port = .ok v) : u.Moved v := by
  have hparts := rebuild_eq_ok hv
  obtain ⟨huserinfo, hquery, hfragment, hpath⟩ := parts_of_ofParts hparts
  have hscheme : v.scheme = u.scheme := (ofParts_eq_ok hparts).2.2.trans h.scheme
  replace huserinfo : v.userinfo = u.userinfo :=
    huserinfo.trans (Percent.encode_of_all h.userinfo)
  replace hquery : v.query = u.query := by
    rw [hquery]
    cases hu : u.query with
    | none => simp [parts, hu]
    | some q => simp [parts, hu, Percent.encode_of_all (h.query q hu)]
  replace hfragment : v.fragment = u.fragment := by
    rw [hfragment]
    cases hu : u.fragment with
    | none => simp [parts, hu]
    | some f => simp [parts, hu, Percent.encode_of_all (h.fragment f hu)]
  replace hpath : v.path = u.path := by
    have hdots : resolveDots u.parts.path = u.path := resolveDots_of_dotless h.dotless
    have hplain : u.parts.path = u.path := rfl
    rw [hpath, hdots, hplain, ite_self, Percent.encode_of_all h.path]
  obtain ⟨scheme, userinfo, host, port, path, query, fragment⟩ := v
  dsimp only at hscheme huserinfo hquery hfragment hpath
  rw [Moved, hscheme, huserinfo, hquery, hfragment, hpath]

/-- A URL that leads to a target has a host. -/
theorem host_ne_nil_of_ofUrl {t : Target} (h : Target.ofUrl u = .ok t) : u.host ≠ [] := by
  intro hnil
  have hname : u.hostName = .ok [] := by
    rw [hostName, hnil]
    rfl
  unfold Target.ofUrl Target.ofShownUrl at h
  rw [hname] at h
  cases h

end

end Url

end BlockingQuery
