import BlockingQuery.Proofs.Http.Query
import BlockingQuery.Session

/-!
# Paths of URLs

What stands in the path of a URL when the path was replaced, merged with that of a base URL and
normalised. A text that was escaped is read back as it was (`Percent.bytes_encode`), and slashes
separate what is read (`Percent.bytes_append_slash`). Dot segments are the one thing that does not
survive: resolving them makes a path shorter, as a server reads it (`Url.length_bytes_resolveDots`),
so what it reads is not what was meant.
-/

namespace BlockingQuery

/-! ## Reading escapes in a path -/

namespace Percent

/-- A percent sign that begins no escape stands for itself. -/
theorem bytes_percent {cs : List Char}
    (h : ∀ a b rest, cs = a :: b :: rest → hexValue? a = none ∨ hexValue? b = none) :
    bytes ('%' :: cs) = 0x25 :: bytes cs := by
  conv_lhs => unfold bytes
  split
  next heq => cases heq
  next a b rest heq =>
    cases heq
    rcases h a b rest rfl with hnone | hnone <;> rw [hnone]
    split
    next hsome => cases hsome
    next => rfl
  next c rest _ heq =>
    cases heq
    rfl

/-- No escape reaches beyond a slash, so what precedes it and what follows it are read apart. -/
@[simp] theorem bytes_append_slash (cs ds : List Char) :
    bytes (cs ++ '/' :: ds) = bytes cs ++ 0x2F :: bytes ds := by
  have hslash (ds : List Char) : bytes ('/' :: ds) = 0x2F :: bytes ds :=
    bytes_cons (by decide) ds
  fun_induction bytes cs with
  | case1 => exact hslash ds
  | case2 a b cs x y hx hy ih =>
    rw [List.cons_append, List.cons_append, List.cons_append, bytes, hx, hy]
    dsimp only
    rw [ih, List.cons_append]
  | case3 a b cs hnone ih =>
    rw [List.cons_append, bytes_percent, ih, List.cons_append]
    intro a' b' rest heq
    cases heq
    cases ha : hexValue? a with
    | none => exact .inl rfl
    | some x =>
      cases hb : hexValue? b with
      | none => exact .inr rfl
      | some y => exact (hnone x y ha hb).elim
  | case4 c cs hnot ih =>
    by_cases hc : c = '%'
    · subst hc
      rw [List.cons_append, bytes_percent, ih]
      · rfl
      -- The slash is no digit, wherever it comes to stand.
      intro a b rest heq
      have hdigit : hexValue? '/' = none := by decide
      rcases cs with _ | ⟨a', _ | ⟨b', cs⟩⟩
      · cases heq
        exact .inl hdigit
      · cases heq
        exact .inr hdigit
      · exact (hnot a' b' cs rfl rfl).elim
    · rw [List.cons_append, bytes_cons hc, ih, List.append_assoc]

/-- A text that was escaped is read as it was, if percent signs were. -/
theorem bytes_encode {safe : Char → Bool} (hsafe : safe '%' = false) (cs : List Char) :
    bytes (encode safe cs) = cs.flatMap String.utf8EncodeChar := by
  induction cs with
  | nil => rfl
  | cons c cs ih =>
    have hcons : encode safe (c :: cs) =
        (if safe c then [c] else (String.utf8EncodeChar c).flatMap escape) ++ encode safe cs :=
      List.flatMap_cons
    rw [hcons, List.flatMap_cons, ← ih]
    split
    next hc =>
      refine bytes_cons ?_ (encode safe cs)
      rintro rfl
      rw [hsafe] at hc
      cases hc
    next => exact bytes_escapes ..

/-- A character of a path that is made of nothing but escapes, slashes and characters that need no
escape. -/
def IsPlain (c : Char) : Prop :=
  Url.isPathSafe c = true ∧ c ≠ ':'

instance (c : Char) : Decidable (IsPlain c) :=
  inferInstanceAs (Decidable (_ ∧ _))

/-- A text without percent signs is read as it is. -/
theorem bytes_of_not_mem {cs : List Char} (h : '%' ∉ cs) :
    bytes cs = cs.flatMap String.utf8EncodeChar := by
  have hplain : encode (· != '%') cs = cs := by
    refine encode_of_all (List.all_eq_true.2 fun c hc => ?_)
    have hne : c ≠ '%' := fun heq => h (heq ▸ hc)
    simpa using hne
  rw [← hplain, bytes_encode (by rfl), hplain]

/-- What is in a text after it was escaped needed no escape, or is in one. -/
theorem mem_encode {safe : Char → Bool} {c : Char} {cs : List Char} (h : c ∈ encode safe cs) :
    safe c = true ∨ ∃ b, c ∈ escape b := by
  obtain ⟨d, -, hd⟩ := List.mem_flatMap.1 h
  split at hd
  next hsafe => exact .inl (List.mem_singleton.1 hd ▸ hsafe)
  next =>
    obtain ⟨b, -, hb⟩ := List.mem_flatMap.1 hd
    exact .inr ⟨b, hb⟩

/-- A text is plain after it was escaped, but for slashes and what needs no escape. -/
theorem isPlain_of_mem_encode {safe : Char → Bool}
    (hsafe : ∀ c, safe c = true → isUnreserved c = true ∨ c = '/') {c : Char} {cs : List Char}
    (h : c ∈ encode safe cs) : IsPlain c := by
  rcases mem_encode h with hsafed | ⟨b, hb⟩
  · rcases hsafe c hsafed with hplain | rfl
    · refine of_isAscii (P := fun c => isUnreserved c = true → IsPlain c) ?_
        (isAscii_of_isUnreserved hplain) hplain
      decide +kernel
    · decide
  · have hcolon : ∀ b : UInt8, ':' ∉ escape b := by
      unfold escape
      decide +kernel
    exact ⟨List.all_eq_true.1 (Url.keepsEscapes.1 b) c hb, fun heq => hcolon b (heq ▸ hb)⟩

end Percent

/-! ## Names of hosts -/

namespace DomainName

/-- Only an empty label is written as nothing. -/
theorem eq_nil_of_encodeLabel {label : List Char} (h : encodeLabel label = .ok []) :
    label = [] := by
  unfold encodeLabel at h
  split at h
  next =>
    cases hdecode : decodeLabel label with
    | error f => simp [hdecode, bind, Except.bind] at h
    | ok points =>
      simp only [hdecode, bind, Except.bind, pure, Except.pure] at h
      split at h
      next => cases h
      next =>
        cases h
        rfl
  next =>
    cases hcheck : checkLabel (label.map Char.val) with
    | error f => simp [hcheck, bind, Except.bind] at h
    | ok =>
      simp only [hcheck, bind, Except.bind, pure, Except.pure] at h
      split at h <;> cases h

/-- A name has a label, and more than an empty one. -/
theorem labels_eq_ok {name : List Char} {found : List (List Char)} {dotted : Bool}
    (h : labels name = .ok (found, dotted)) : found ≠ [] ∧ (dotted = false → found ≠ [[]]) := by
  unfold labels at h
  split at h
  next => cases h
  next =>
    dsimp only at h
    split at h
    next => cases h
    next hone =>
      replace hone : name.splitOnP isDot ≠ [[]] := by simpa using hone
      split at h
      next hlast =>
        cases h
        refine ⟨fun hnil => hone ?_, fun h => by cases h⟩
        have hsome : name.splitOnP isDot ≠ [] := List.splitOnP_ne_nil isDot name
        have hlast : (name.splitOnP isDot).getLast hsome = [] := by
          rw [List.getLast?_eq_some_getLast hsome] at hlast
          simpa using hlast
        rw [← List.dropLast_append_getLast hsome, hnil, hlast]
        rfl
      next =>
        cases h
        exact ⟨List.splitOnP_ne_nil isDot name, fun _ => hone⟩

/-- Labels are written one by one. -/
theorem forall₂_of_mapM {found encoded : List (List Char)}
    (h : found.mapM encodeLabel = .ok encoded) :
    List.Forall₂ (fun label written => encodeLabel label = .ok written) found encoded := by
  induction found generalizing encoded with
  | nil =>
    cases h
    exact .nil
  | cons label rest ih =>
    rw [List.mapM_cons] at h
    cases hlabel : encodeLabel label with
    | error f => simp [hlabel, bind, Except.bind] at h
    | ok written =>
      cases hrest : rest.mapM encodeLabel with
      | error f => simp [hlabel, hrest, bind, Except.bind] at h
      | ok more =>
        simp only [hlabel, hrest, bind, Except.bind, pure, Except.pure] at h
        cases h
        exact .cons hlabel (ih hrest)

/-- Two labels or more are written with a dot. -/
theorem intercalate_ne_nil (l l' : List Char) (rest : List (List Char)) :
    ['.'].intercalate (l :: l' :: rest) ≠ [] := by
  rw [List.intercalate_cons_cons]
  simp

/-- No name is written as nothing. -/
theorem encode_ne_nil {name written : List Char} (h : encode name = .ok written) :
    written ≠ [] := by
  unfold encode at h
  cases hlabels : labels name with
  | error f => simp [hlabels, bind, Except.bind] at h
  | ok labels =>
    obtain ⟨found, dotted⟩ := labels
    obtain ⟨hsome, hmore⟩ := labels_eq_ok hlabels
    cases hencoded : found.mapM encodeLabel with
    | error f => simp [hlabels, hencoded, bind, Except.bind] at h
    | ok encoded =>
      have heach := forall₂_of_mapM hencoded
      simp only [hlabels, hencoded, bind, Except.bind, pure, Except.pure] at h
      cases heach with
      | nil => exact absurd rfl hsome
      | @cons l e rest es hlabel hrest =>
        cases dotted with
        | true =>
          simp only [if_true] at h
          split at h
          next => cases h
          next =>
            cases h
            cases es <;> exact intercalate_ne_nil _ _ _
        | false =>
          simp only [Bool.false_eq_true, if_false] at h
          split at h
          next => cases h
          next =>
            cases h
            cases hrest with
            | nil =>
              rintro hnil
              have hempty : e = [] := by simpa using hnil
              rw [hempty] at hlabel
              exact hmore rfl (by rw [eq_nil_of_encodeLabel hlabel])
            | cons => exact intercalate_ne_nil _ _ _

end DomainName

namespace Url

/-! ## Dot segments -/

instance (segment : List Char) : Decidable (IsDots segment) :=
  inferInstanceAs (Decidable (_ ∨ _))

instance (path : List Char) : Decidable (Dotless path) :=
  inferInstanceAs (Decidable (∀ s ∈ path.splitOn '/', ¬IsDots s))

/-- The segments of two paths with a slash between them are those of the one and then those of the
other. -/
theorem splitOn_append_slash (cs ds : List Char) :
    (cs ++ '/' :: ds).splitOn '/' = cs.splitOn '/' ++ ds.splitOn '/' :=
  List.splitOnP_append_cons cs ds (by decide)

theorem dotless_nil : Dotless [] := by
  simp [Dotless, IsDots]

/-- There are dot segments in one of them just if there are some in both together. -/
theorem dotless_append {cs ds : List Char} :
    Dotless (cs ++ '/' :: ds) ↔ Dotless cs ∧ Dotless ds := by
  unfold Dotless
  rw [splitOn_append_slash]
  exact List.forall_mem_append

/-- A text without separators is one part. -/
theorem splitOn_of_not_mem {sep : Char} {cs : List Char} (h : sep ∉ cs) :
    cs.splitOn sep = [cs] := by
  have hsplit : ([sep].intercalate [cs]).splitOn sep = [cs] :=
    List.splitOn_intercalate sep (by simpa using h) (by simp)
  simpa using hsplit

/-- A text without slashes is one segment. -/
theorem dotless_of_not_mem {cs : List Char} (h : '/' ∉ cs) : Dotless cs ↔ ¬IsDots cs := by
  unfold Dotless
  rw [splitOn_of_not_mem h, List.forall_mem_singleton]

/-- How many bytes segments are read as, a slash after each. -/
def size (segments : List (List Char)) : Nat :=
  (segments.map fun s => (Percent.bytes s).length + 1).sum

/-- The order of the segments makes no difference. -/
@[simp] theorem size_reverse (segments : List (List Char)) :
    size segments.reverse = size segments := by
  rw [size, List.map_reverse, List.sum_reverse, size]

/-- A path is read as the bytes of its segments and the slashes between them. -/
theorem length_bytes_intercalate (segments : List (List Char)) :
    (Percent.bytes (['/'].intercalate segments)).length = size segments - 1 := by
  induction segments with
  | nil => rfl
  | cons s rest ih =>
    cases rest with
    | nil => simp [size]
    | cons t rest =>
      have hslash : s ++ ['/'] ++ ['/'].intercalate (t :: rest) =
          s ++ '/' :: ['/'].intercalate (t :: rest) := by simp
      rw [List.intercalate_cons_cons, hslash, Percent.bytes_append_slash, List.length_append,
        List.length_cons, ih]
      simp only [size, List.map_cons, List.sum_cons]
      omega

/-- One more segment adds no more than itself, and a dot segment adds nothing. -/
theorem size_pushSegment (before : List (List Char)) (s : List Char) :
    size (pushSegment before s) ≤ size (s :: before) ∧
      (IsDots s → size (pushSegment before s) + 2 ≤ size (s :: before)) := by
  have hcons : size (s :: before) = (Percent.bytes s).length + 1 + size before := rfl
  unfold pushSegment
  split
  next hone =>
    have hlength : (Percent.bytes s).length = 1 := by rw [hone]; decide
    exact ⟨by omega, fun _ => by omega⟩
  next hone =>
    split
    next htwo =>
      have hlength : (Percent.bytes s).length = 2 := by rw [htwo]; decide
      have htail : size before.tail ≤ size before := by
        cases before with
        | nil => exact le_refl _
        | cons t before => exact Nat.le_add_left ..
      split <;> exact ⟨by omega, fun _ => by omega⟩
    next htwo => exact ⟨le_refl _, fun hdots => absurd hdots (not_or.2 ⟨hone, htwo⟩)⟩

/-- Segments add no more than themselves, and less if there are dot segments among them. -/
theorem size_foldl_pushSegment (segments before : List (List Char)) :
    size (segments.foldl pushSegment before) ≤ size segments + size before ∧
      ((∃ s ∈ segments, IsDots s) →
        size (segments.foldl pushSegment before) + 2 ≤ size segments + size before) := by
  induction segments generalizing before with
  | nil => simp
  | cons s segments ih =>
    obtain ⟨hle, hlt⟩ := ih (pushSegment before s)
    obtain ⟨hpush, hdots⟩ := size_pushSegment before s
    have hsegments : size (s :: segments) = (Percent.bytes s).length + 1 + size segments := rfl
    have hbefore : size (s :: before) = (Percent.bytes s).length + 1 + size before := rfl
    rw [List.foldl_cons]
    refine ⟨by omega, ?_⟩
    rintro ⟨s', hs', hs''⟩
    rcases List.mem_cons.1 hs' with rfl | hmem
    · have hadds := hdots hs''
      omega
    · have hadds := hlt ⟨s', hmem, hs''⟩
      omega

/-- Resolving dot segments makes a path shorter, if it has any. -/
theorem length_bytes_resolveDots {path : List Char} (h : ¬Dotless path) :
    (Percent.bytes (resolveDots path)).length < (Percent.bytes path).length := by
  have hdots : ∃ s ∈ path.splitOn '/', IsDots s := by
    unfold Dotless at h
    push Not at h
    exact h
  have hany : ((path.splitOn '/').any fun s => s == ['.'] || s == ['.', '.']) = true := by
    obtain ⟨s, hs, hs'⟩ := hdots
    exact List.any_eq_true.2 ⟨s, hs, by simpa [IsDots] using hs'⟩
  have hpath : (Percent.bytes path).length = size (path.splitOn '/') - 1 := by
    rw [← length_bytes_intercalate, List.intercalate_splitOn]
  have hadds := (size_foldl_pushSegment (path.splitOn '/') []).2 hdots
  have hnil : size [] = 0 := rfl
  rw [resolveDots, if_pos hany, length_bytes_intercalate, size_reverse, hpath]
  omega

/-- What is in a text that parts make is in one of them, or is the separator. -/
theorem mem_intercalate {c sep : Char} {segments : List (List Char)}
    (h : c ∈ [sep].intercalate segments) : c = sep ∨ ∃ s ∈ segments, c ∈ s := by
  induction segments with
  | nil => cases h
  | cons s rest ih =>
    cases rest with
    | nil => exact .inr ⟨s, List.mem_cons_self, by simpa using h⟩
    | cons t rest =>
      rw [List.intercalate_cons_cons, List.append_assoc] at h
      rcases List.mem_append.1 h with hs | h
      · exact .inr ⟨s, List.mem_cons_self, hs⟩
      · rcases List.mem_append.1 h with hsep | hrest
        · exact .inl (List.mem_singleton.1 hsep)
        · rcases ih hrest with heq | ⟨s', hs', hc⟩
          · exact .inl heq
          · exact .inr ⟨s', List.mem_cons_of_mem _ hs', hc⟩

/-- What is in a segment is in the path. -/
theorem mem_of_mem_splitOn {c : Char} {s path : List Char} (hs : s ∈ path.splitOn '/')
    (hc : c ∈ s) : c ∈ path := by
  have hmem (segments : List (List Char)) (hs : s ∈ segments) : c ∈ ['/'].intercalate segments := by
    induction segments with
    | nil => cases hs
    | cons t rest ih =>
      cases rest with
      | nil =>
        obtain rfl := List.mem_singleton.1 hs
        simpa using hc
      | cons u rest =>
        rw [List.intercalate_cons_cons]
        rcases List.mem_cons.1 hs with rfl | hs
        · exact List.mem_append_left _ (List.mem_append_left _ hc)
        · exact List.mem_append_right _ (ih hs)
  have hpath := hmem _ hs
  rwa [List.intercalate_splitOn] at hpath

/-- A path that needs no escapes needs none when its dot segments are resolved. -/
theorem all_resolveDots {path : List Char} (h : path.all isPathSafe = true) :
    (resolveDots path).all isPathSafe = true := by
  rw [resolveDots]
  split
  next =>
    refine List.all_eq_true.2 fun c hc => ?_
    rcases mem_intercalate hc with rfl | ⟨s, hs, hc⟩
    · rfl
    · obtain ⟨hs, -⟩ :=
        (mem_foldl_pushSegment (List.mem_reverse.1 hs)).resolve_left List.not_mem_nil
      exact List.all_eq_true.1 h c (mem_of_mem_splitOn hs hc)
  next => exact h

/-! ## URLs with another path -/

/-- Whether anything stands before the path of a URL. Only then are its dot segments resolved. -/
def isRooted (u : Url) : Bool :=
  !u.scheme.isEmpty || (!u.userinfo.isEmpty || !u.host.isEmpty || u.port.isSome)

/-- A path as it comes to stand in a URL. -/
def settle (u : Url) (path : List Char) : List Char :=
  if u.isRooted then resolveDots path else path

/-- The path, which is a slash if it is empty. -/
def rootPath (u : Url) : List Char :=
  if u.path.isEmpty then ['/'] else u.path

/-- The path without a slash at its end. -/
def stem (u : Url) : List Char :=
  if u.rootPath.getLast? = some '/' then u.rootPath.dropLast else u.rootPath

section
variable {u v : Url}

/-- A URL that was read is in normal form. -/
theorem isNormal_of_parse {cs : List Char} (h : parse cs = .ok u) :
    ofParts (split cs) = .ok u ∧ u.IsNormal := by
  unfold parse at h
  cases hcheck : check cs with
  | error f => simp [hcheck, bind, Except.bind] at h
  | ok =>
    simp only [hcheck, bind, Except.bind] at h
    exact ⟨h, _, h⟩

theorem settle_congr (h : v.isRooted = u.isRooted) (path : List Char) :
    v.settle path = u.settle path := by
  rw [settle, h, settle]

theorem all_settle {path : List Char} (h : path.all isPathSafe = true) :
    (u.settle path).all isPathSafe = true := by
  unfold settle
  split
  next => exact all_resolveDots h
  next => exact h

/-- The path of a URL in normal form needs no escapes, and stays as it is. -/
theorem IsNormal.path (h : u.IsNormal) :
    u.path.all isPathSafe = true ∧ (u.isRooted = true → Dotless u.path) := by
  obtain ⟨p, h⟩ := h
  have hpath : u.path = Percent.encode isPathSafe (u.settle p.path) := (parts_of_ofParts h).2.2.2
  refine ⟨hpath ▸ Percent.all_encode keepsEscapes.1 _, fun hrooted => ?_⟩
  rw [hpath, settle, if_pos hrooted]
  exact dotless_encode (dotless_resolveDots _)

theorem settle_of_dotless {path : List Char} (h : u.isRooted = true → Dotless path) :
    u.settle path = path := by
  unfold settle
  split
  next hrooted => exact resolveDots_of_dotless (h hrooted)
  next => rfl

/-- An escaped text is empty just if the text is. -/
@[simp] theorem isEmpty_encode {safe : Char → Bool} (cs : List Char) :
    (Percent.encode safe cs).isEmpty = cs.isEmpty := by
  cases cs with
  | nil => rfl
  | cons c cs =>
    rw [Percent.encode, List.flatMap_cons]
    split
    next => rfl
    next =>
      cases hbytes : String.utf8EncodeChar c with
      | nil => exact absurd hbytes (by simp)
      | cons b bs => rfl

/-- A host has a normal form that is empty just if it is. -/
theorem isEmpty_normalHost {cs host : List Char} (h : normalHost cs = .ok host) :
    host.isEmpty = cs.isEmpty := by
  unfold normalHost at h
  dsimp only at h
  split at h
  next hnil =>
    cases h
    exact hnil.symm
  next hnil =>
    have hsome : cs.isEmpty = false := by simpa using hnil
    rw [hsome]
    split at h
    next =>
      split at h
      next =>
        cases h
        exact hsome
      next => cases h
    next =>
      split at h
      next =>
        split at h
        next hipv6 =>
          cases h
          have hnone : Address.isIpv6 [] = false := by decide
          rw [List.isEmpty_eq_false_iff]
          intro hinner
          rw [hinner, hnone] at hipv6
          cases hipv6
        next => cases h
      next =>
        split at h
        next =>
          cases h
          rw [isEmpty_encode]
          simpa using hnil
        next =>
          split at h
          next hname =>
            cases h
            exact List.isEmpty_eq_false_iff.2 (DomainName.encode_ne_nil hname)
          next => cases h

/-- Brackets make no host. -/
@[simp] theorem isEmpty_writtenHost (u : Url) : u.writtenHost.isEmpty = u.host.isEmpty := by
  unfold writtenHost
  split
  next hcolon =>
    cases hhost : u.host with
    | nil =>
      rw [hhost] at hcolon
      cases hcolon
    | cons => rfl
  next => rfl

/-- A port that is written is left out only behind a scheme. -/
theorem isSome_normalPort {port : Option Int}
    (h : normalPort [] (u.writtenPort.drop 1) = .ok port) : port.isSome = u.port.isSome := by
  unfold normalPort writtenPort at h
  cases hport : u.port with
  | none =>
    rw [hport] at h
    cases h
    rfl
  | some n =>
    have hsome : (Text.decimal n).isEmpty = false := by
      rw [List.isEmpty_eq_false_iff]
      cases n with
      | ofNat n => exact Nat.toDigits_ne_nil
      | negSucc n => exact List.cons_ne_nil _ _
    have hnone : defaultPorts.lookup (String.ofList []) = none := by decide +kernel
    rw [hport] at h
    simp only [List.drop_one, List.tail_cons, hsome, hnone, Bool.false_eq_true, if_false] at h
    split at h
    next => cases h
    next =>
      cases h
      rfl

/-- A URL of which only the path and the query were replaced. -/
theorem rebuild_path {path : List Char} {query : Option (List Char)}
    (h : u.rebuild (fun p => { p with path, query }) = .ok v) :
    v.IsNormal ∧ v.isRooted = u.isRooted ∧
      v.path = Percent.encode isPathSafe (u.settle path) ∧
      v.query = query.map (Percent.encode isQuerySafe) := by
  have hparts := rebuild_eq_ok h
  obtain ⟨huserinfo, hquery, -, hpath⟩ := parts_of_ofParts hparts
  obtain ⟨hhost, hport, hscheme⟩ := ofParts_eq_ok hparts
  have hscheme' : v.scheme.isEmpty = u.scheme.isEmpty := by
    rw [hscheme, List.isEmpty_map]
    rfl
  have huserinfo' : v.userinfo.isEmpty = u.userinfo.isEmpty := by
    rw [huserinfo, isEmpty_encode]
    rfl
  have hhost' : v.host.isEmpty = u.host.isEmpty :=
    (isEmpty_normalHost hhost).trans (isEmpty_writtenHost u)
  have hport' : u.scheme.isEmpty = true → v.port.isSome = u.port.isSome := by
    intro hempty
    have hnil : u.parts.scheme = [] := List.isEmpty_iff.1 hempty
    exact isSome_normalPort (hnil ▸ hport)
  have hrooted : v.isRooted = u.isRooted := by
    unfold isRooted
    rw [hscheme', huserinfo', hhost']
    cases hempty : u.scheme.isEmpty with
    | true => rw [hport' hempty]
    | false => rfl
  have hsettle : v.settle path = u.settle path := settle_congr hrooted path
  exact ⟨⟨_, hparts⟩, hrooted, hsettle ▸ hpath, hquery⟩

/-! ## Merging paths -/

/-- Nothing is cut where there is nothing to cut at. -/
theorem cut_of_not_mem {c : Char} {cs : List Char} (h : c ∉ cs) : cut (· == c) cs = (cs, none) := by
  have hall : ∀ d ∈ cs, (!(d == c)) = true := fun d hd => by
    have hne : d ≠ c := fun heq => h (heq ▸ hd)
    simpa using hne
  have hnone : (cs.dropWhile fun d => !(d == c)) = [] := by
    have happend := @List.dropWhile_append_of_pos _ (fun d => !(d == c)) cs [] hall
    rwa [List.append_nil, List.dropWhile_nil] at happend
  rw [cut, hnone]

/-- A text is cut at the first place. -/
theorem cut_append {c : Char} {cs : List Char} (h : c ∉ cs) (ds : List Char) :
    cut (· == c) (cs ++ c :: ds) = (cs, some ds) := by
  have hall : ∀ d ∈ cs, (!(d == c)) = true := fun d hd => by
    have hne : d ≠ c := fun heq => h (heq ▸ hd)
    simpa using hne
  have hdrop : ((cs ++ c :: ds).dropWhile fun d => !(d == c)) = c :: ds := by
    rw [List.dropWhile_append_of_pos hall, List.dropWhile_cons_of_neg (by simp)]
  have htake : ((cs ++ c :: ds).takeWhile fun d => !(d == c)) = cs := by
    rw [List.takeWhile_append_of_pos hall, List.takeWhile_cons_of_neg (by simp), List.append_nil]
  rw [cut, hdrop, htake]

/-- A path that needs no escapes holds no question mark. -/
theorem question_not_mem {path : List Char} (h : path.all isPathSafe = true) : '?' ∉ path := by
  intro hmem
  cases List.all_eq_true.1 h _ hmem

theorem rootPath_ne_nil (u : Url) : u.rootPath ≠ [] := by
  unfold rootPath
  split
  next => exact List.cons_ne_nil _ _
  next hpath => simpa using hpath

theorem rawPath_of_isNone (h : u.query.isNone = true) : u.rawPath = u.rootPath := by
  rw [rawPath, Option.isNone_iff_eq_none.1 h]
  exact List.append_nil _

theorem rawPath_of_query {q : List Char} (h : u.query = some q) :
    u.rawPath = u.rootPath ++ '?' :: q := by
  rw [rawPath, h]
  rfl

theorem IsNormal.dotless_rootPath (hu : u.IsNormal) (hrooted : u.isRooted = true) :
    Dotless u.rootPath := by
  unfold rootPath
  split
  next => exact dotless_append.2 ⟨dotless_nil, dotless_nil⟩
  next => exact hu.path.2 hrooted

theorem all_rootPath (h : u.path.all isPathSafe = true) : u.rootPath.all isPathSafe = true := by
  unfold rootPath
  split
  next => rfl
  next => exact h

/-- What stands before the query when a text is written behind both. -/
def extend (u : Url) (more : List Char) : List Char :=
  if u.query.isNone then u.rootPath ++ more else u.rootPath

/-- A URL with a text written behind its path and query. Where there is a query the text goes to
it, and so does not come to stand in the path. -/
theorem withRawPath_append {more : List Char} (hu : u.path.all isPathSafe = true)
    (hmore : more.all isPathSafe = true) (h : u.withRawPath (u.rawPath ++ more) = .ok v) :
    v.IsNormal ∧ v.isRooted = u.isRooted ∧ v.query.isNone = u.query.isNone ∧
      v.path = u.settle (u.extend more) := by
  have hroot := all_rootPath hu
  have hrootMore : (u.rootPath ++ more).all isPathSafe = true := by
    rw [List.all_append, hroot, hmore]
    rfl
  have hextend : (u.extend more).all isPathSafe = true := by
    unfold extend
    split
    next => exact hrootMore
    next => exact hroot
  obtain ⟨query, hnone, hcut⟩ : ∃ query : Option (List Char), query.isNone = u.query.isNone ∧
      cut (· == '?') (u.rawPath ++ more) = (u.extend more, query) := by
    unfold extend
    cases hu : u.query with
    | none =>
      refine ⟨none, rfl, ?_⟩
      rw [rawPath_of_isNone (by rw [hu]; rfl)]
      exact cut_of_not_mem (question_not_mem hrootMore)
    | some q =>
      refine ⟨some (q ++ more), rfl, ?_⟩
      rw [rawPath_of_query hu, List.append_assoc, List.cons_append]
      exact cut_append (question_not_mem hroot) _
  rw [withRawPath, hcut] at h
  obtain ⟨hnormal, hrooted, hpath, hquery⟩ := rebuild_path h
  refine ⟨hnormal, hrooted, ?_, ?_⟩
  · rw [hquery, Option.isNone_map, hnone]
  · rw [hpath, Percent.encode_of_all (all_settle hextend)]

/-- A URL with another query has the same path. -/
theorem path_of_withQuery {query : Option (List Char)} (hu : u.IsNormal)
    (h : u.withQuery query = .ok v) : v.path = u.path := by
  obtain ⟨hall, hdotless⟩ := hu.path
  have hstays : u.settle u.path = u.path := settle_of_dotless hdotless
  have hrebuilt : u.rebuild (fun p => { p with path := u.path, query }) = .ok v := h
  obtain ⟨-, -, hpath, -⟩ := rebuild_path hrebuilt
  rw [hpath, hstays, Percent.encode_of_all hall]

/-- The path that a rooted path leads to from a base, which is given without the slash that it
begins with. -/
def below (u : Url) (rest : List Char) : List Char :=
  if u.query.isNone then u.settle (u.stem ++ '/' :: rest) else u.rootPath

/-- A path is its stem, or its stem and a slash. -/
theorem rootPath_eq_stem (u : Url) : u.rootPath = u.stem ++ ['/'] ∨ u.rootPath = u.stem := by
  unfold stem
  split
  next hslash => exact .inl (List.dropLast_append_getLast? _ hslash).symm
  next => exact .inr rfl

/-- What stands below a base is read as the base and what was to stand below it, unless there is a
query or a dot segment. -/
theorem bytes_below_iff {rest : List Char} (hu : u.IsNormal) (hrest : Percent.bytes rest ≠ []) :
    Percent.bytes (u.below rest) = Percent.bytes u.stem ++ 0x2F :: Percent.bytes rest ↔
      u.query.isNone = true ∧ (u.isRooted = true → Dotless rest) := by
  have hmeant := Percent.bytes_append_slash u.stem rest
  have hsome := List.length_pos_iff.2 hrest
  rw [← hmeant]
  unfold below settle
  constructor
  · intro heq
    have hlength := congrArg List.length heq
    split at hlength
    next hnone =>
      refine ⟨hnone, fun hrooted => ?_⟩
      rw [if_pos hrooted] at hlength
      by_contra hdots
      have hall : ¬Dotless (u.stem ++ '/' :: rest) := fun h => hdots (dotless_append.1 h).2
      exact absurd hlength (length_bytes_resolveDots hall).ne
    next =>
      rw [hmeant, List.length_append, List.length_cons] at hlength
      rcases u.rootPath_eq_stem with hroot | hroot <;> rw [hroot] at hlength
      · rw [Percent.bytes_append_slash, List.length_append, List.length_cons] at hlength
        simp only [Percent.bytes, List.length_nil] at hlength
        omega
      · omega
  · rintro ⟨hnone, hdotless⟩
    rw [if_pos hnone]
    split
    next hrooted =>
      have hstem : Dotless u.stem := by
        have hroot := hu.dotless_rootPath hrooted
        rcases u.rootPath_eq_stem with heq | heq <;> rw [heq] at hroot
        · exact (dotless_append.1 hroot).1
        · exact hroot
      rw [resolveDots_of_dotless (dotless_append.2 ⟨hstem, hdotless hrooted⟩)]
    next => rfl

end

end Url

/-! ## URLs below a base -/

namespace Session

open Url

section
variable {session : Session} {u v : Url}

/-- The base of a session: the path of its URL with a slash at the end, unless there is a query,
which then has the slash. -/
theorem withFinalSlash_eq_ok (hu : u.IsNormal) (h : withFinalSlash u = .ok v) :
    v.path.all isPathSafe = true ∧ v.isRooted = u.isRooted ∧ v.query.isNone = u.query.isNone ∧
      v.rootPath = if u.query.isNone then u.stem ++ ['/'] else u.rootPath := by
  have hall := hu.path.1
  unfold withFinalSlash at h
  split at h
  next hslash =>
    cases h
    refine ⟨hall, rfl, rfl, ?_⟩
    split
    next hnone =>
      rw [rawPath_of_isNone hnone] at hslash
      rw [stem, if_pos hslash]
      exact (List.dropLast_append_getLast? _ hslash).symm
    next => rfl
  next hslash =>
    obtain ⟨hnormal, hrooted, hquery, hpath⟩ := withRawPath_append hall (by rfl) h
    have hsettle : u.settle (u.extend ['/']) = u.extend ['/'] := by
      refine settle_of_dotless fun hrooted => ?_
      unfold extend
      split
      next => exact dotless_append.2 ⟨hu.dotless_rootPath hrooted, dotless_nil⟩
      next => exact hu.dotless_rootPath hrooted
    have hextend : u.extend ['/'] = if u.query.isNone then u.stem ++ ['/'] else u.rootPath := by
      unfold extend
      split
      next hnone =>
        rw [rawPath_of_isNone hnone] at hslash
        rw [stem, if_neg hslash]
      next => rfl
    have hsome : u.extend ['/'] ≠ [] := by
      unfold extend
      split
      next => simp
      next => exact u.rootPath_ne_nil
    rw [hsettle] at hpath
    refine ⟨hnormal.path.1, hrooted, hquery, ?_⟩
    rw [rootPath, hpath, if_neg (by simpa using hsome), hextend]

/-- A path that is plain is read as it is, and names no host. -/
theorem parse_plain {rest : List Char} (hplain : ∀ c ∈ rest, Percent.IsPlain c)
    (hhead : rest.head? ≠ some '/') (h : Url.parse ('/' :: rest) = .ok v) :
    v.isAbsolute = false ∧ v.rawPath = '/' :: rest := by
  have hplain : ∀ c ∈ '/' :: rest, Percent.IsPlain c := by
    rw [List.forall_mem_cons]
    exact ⟨⟨rfl, by decide⟩, hplain⟩
  have hall : ('/' :: rest).all isPathSafe = true :=
    List.all_eq_true.2 fun c hc => (hplain c hc).1
  have hauthority : splitAuthority ('/' :: rest) = ([], '/' :: rest) := by
    cases rest with
    | nil => rfl
    | cons c rest =>
      unfold splitAuthority
      split
      next heq =>
        cases heq
        exact absurd rfl hhead
      next => rfl
  have hcolon : ':' ∉ '/' :: rest := fun hc => (hplain _ hc).2 rfl
  have hnumber : '#' ∉ '/' :: rest := fun hc => by cases (hplain _ hc).1
  have hscheme : splitScheme ('/' :: rest) = ([], '/' :: rest) := by
    rw [splitScheme, cut_of_not_mem hcolon]
  have hsplit : split ('/' :: rest) =
      { scheme := [], userinfo := [], host := [], port := [], path := '/' :: rest, query := none
        fragment := none } := by
    rw [split, hscheme]
    dsimp only
    rw [hauthority]
    dsimp only
    rw [cut_of_not_mem hnumber]
    dsimp only
    rw [cut_of_not_mem (question_not_mem hall)]
    rfl
  have hparts := (isNormal_of_parse h).1
  rw [hsplit] at hparts
  obtain ⟨hhost, hport, hscheme⟩ := ofParts_eq_ok hparts
  obtain ⟨huserinfo, hquery, -, hpath⟩ := parts_of_ofParts hparts
  replace hhost : v.host = [] := (Except.ok.inj hhost).symm
  replace hport : v.port = none := (Except.ok.inj hport).symm
  replace hscheme : v.scheme = [] := hscheme
  replace huserinfo : v.userinfo = [] := huserinfo
  rw [hscheme, huserinfo, hhost, hport] at hpath
  replace hpath : v.path = '/' :: rest := hpath.trans (Percent.encode_of_all hall)
  refine ⟨?_, ?_⟩
  · rw [isAbsolute, hscheme]
    rfl
  · have hnone : v.query.isNone = true := by rw [hquery]; rfl
    rw [rawPath_of_isNone hnone, rootPath, hpath]
    rfl

/-- A session makes a request for a path that is plain below its base. -/
theorem path_of_resolve {rest : List Char} (hu : u.IsNormal)
    (hbase : withFinalSlash u = .ok session.base) (hplain : ∀ c ∈ rest, Percent.IsPlain c)
    (hhead : rest.head? ≠ some '/')
    (h : session.resolve (String.ofList ('/' :: rest)) = .ok v) :
    v.IsNormal ∧ v.path = u.below rest := by
  obtain ⟨hall, hrooted, hquery, hroot⟩ := withFinalSlash_eq_ok hu hbase
  have hrest : rest.all isPathSafe = true := List.all_eq_true.2 fun c hc => (hplain c hc).1
  unfold resolve at h
  rw [String.toList_ofList] at h
  cases hparse : Url.parse ('/' :: rest) with
  | error f => simp [hparse, bind, Except.bind] at h
  | ok reference =>
    obtain ⟨habsolute, hraw⟩ := parse_plain hplain hhead hparse
    have hdrop : ('/' :: rest).dropWhile (· == '/') = rest := by
      rw [List.dropWhile_cons_of_pos (by simp)]
      cases rest with
      | nil => rfl
      | cons c rest =>
        refine List.dropWhile_cons_of_neg ?_
        simpa using hhead
    simp only [hparse, bind, Except.bind, habsolute, hraw, hdrop, Bool.false_eq_true,
      if_false] at h
    obtain ⟨hnormal, -, -, hpath⟩ := withRawPath_append hall hrest h
    refine ⟨hnormal, ?_⟩
    rw [hpath, settle_congr hrooted, extend, hquery, hroot, below]
    split
    next => rw [List.append_assoc, List.singleton_append]
    next => exact settle_of_dotless hu.dotless_rootPath

end

end Session

end BlockingQuery
