import BlockingQuery.Proofs.Http.Path
import BlockingQuery.Proofs.Number.Numeral

/-!
# Targets and their texts

The texts that name a target are told by `Target.Names`, and reading finds the target of each of
them and refuses all others (`Target.parseTrimmed_eq_ok_iff`). A target is read back from its own
text just if its host is legible (`Target.parse_toString_iff`): a host with a colon stands in
brackets and may not close them, and any other host begins the text, so it may be neither empty nor
begin with a blank or an opening bracket. Not all hosts that are read are legible
(`Target.parse_usable_iff`).
-/

namespace BlockingQuery

/-! ## Cutting and trimming texts -/

namespace Url

variable (c : Char) (cs : List Char)

/-- A text is cut at the first place of a character, if there is one. -/
theorem cut_cases : (c ∉ cs ∧ cut (· == c) cs = (cs, none)) ∨
    ∃ before after, cs = before ++ c :: after ∧ c ∉ before ∧
      cut (· == c) cs = (before, some after) := by
  by_cases h : c ∈ cs
  · obtain ⟨before, after, rfl, hbefore⟩ := List.eq_append_cons_of_mem h
    exact .inr ⟨before, after, rfl, hbefore, cut_append hbefore after⟩
  · exact .inl ⟨h, cut_of_not_mem h⟩

/-- A text is cut at the last place of a character. -/
theorem cutLast_append {c : Char} {after : List Char} (h : c ∉ after) (before : List Char) :
    cutLast c (before ++ c :: after) = (some before, after) := by
  have hreverse : (before ++ c :: after).reverse = after.reverse ++ c :: before.reverse := by simp
  rw [cutLast, hreverse, cut_append (List.mem_reverse.not.2 h)]
  simp

/-- A text is cut at the last place of a character, if there is one. -/
theorem cutLast_cases : (c ∉ cs ∧ cutLast c cs = (none, cs)) ∨
    ∃ before after, cs = before ++ c :: after ∧ c ∉ after ∧
      cutLast c cs = (some before, after) := by
  by_cases h : c ∈ cs
  · obtain ⟨after, before, hreverse, hafter⟩ := List.eq_append_cons_of_mem (List.mem_reverse.2 h)
    obtain rfl : cs = before.reverse ++ c :: after.reverse := by
      rw [← List.reverse_reverse cs, hreverse]
      simp
    have hafter' : c ∉ after.reverse := List.mem_reverse.not.2 hafter
    exact .inr ⟨_, _, rfl, hafter', cutLast_append hafter' _⟩
  · refine .inl ⟨h, ?_⟩
    rw [cutLast, cut_of_not_mem (List.mem_reverse.not.2 h)]
    simp

end Url

namespace Text

/-- Before a text without blanks only the blanks at the beginning are dropped. -/
theorem trim_append {back : List Char} (hne : back ≠ []) (h : ∀ c ∈ back, isBlank c = false)
    (front : List Char) : trim (front ++ back) = front.dropWhile isBlank ++ back := by
  have hkeep (ds : List Char) (hds : ds ≠ []) (hall : ∀ c ∈ ds, isBlank c = false)
      (more : List Char) : (ds ++ more).dropWhile isBlank = ds ++ more := by
    obtain ⟨d, ds, rfl⟩ := List.exists_cons_of_ne_nil hds
    exact List.dropWhile_cons_of_neg (by simp [hall d List.mem_cons_self])
  have hfront : (front ++ back).dropWhile isBlank = front.dropWhile isBlank ++ back := by
    rw [List.dropWhile_append]
    split
    next hnil =>
      have hback := hkeep back hne h []
      rw [List.append_nil] at hback
      rw [hback, List.isEmpty_iff.1 hnil]
      rfl
    next => rfl
  rw [trim, hfront, List.reverse_append, hkeep back.reverse (by simpa using hne)
    (fun c hc => h c (List.mem_reverse.1 hc)), ← List.reverse_append, List.reverse_reverse]

/-- A text that is trimmed does not begin with a blank. -/
theorem isBlank_of_trim_eq {c : Char} {cs ds : List Char} (h : trim ds = c :: cs) :
    isBlank c = false := by
  have hmiddle : (c :: cs).reverse <:+ (ds.dropWhile isBlank).reverse := by
    rw [← h, trim, List.reverse_reverse]
    exact List.dropWhile_suffix _
  obtain ⟨more, hmore⟩ := hmiddle
  have hdrop : ds.dropWhile isBlank = c :: (cs ++ more.reverse) := by
    rw [← List.reverse_reverse (ds.dropWhile isBlank), ← hmore]
    simp
  have hhead := List.head?_dropWhile_not isBlank ds
  rw [hdrop] at hhead
  simpa using hhead

end Text

namespace Target

open Text

/-! ## The texts that name a target -/

/-- A text that writes the number of a port. -/
def IsPort (port : List Char) (n : Int) : Prop :=
  Numeral.int? port = some n ∧ 0 < n ∧ n < 65536

/-- A text without blanks around it names a target: a host in brackets that it does not close, or a
host that does not begin with a bracket, each alone or with a colon and a port behind it. -/
inductive Names : List Char → Target → Prop
  | bracketed {host : List Char} : ']' ∉ host →
    Names ('[' :: host ++ [']']) ⟨.ofList host, defaultPort⟩
  | bracketedPort {host port : List Char} {n : Int} : ']' ∉ host → IsPort port n →
    Names ('[' :: host ++ ']' :: ':' :: port) ⟨.ofList host, n⟩
  | plain {host : List Char} : host ≠ [] → host.head? ≠ some '[' → ':' ∉ host →
    Names host ⟨.ofList host, defaultPort⟩
  | plainPort {host port : List Char} {n : Int} : host ≠ [] → host.head? ≠ some '[' →
    ':' ∉ port → IsPort port n → Names (host ++ ':' :: port) ⟨.ofList host, n⟩

/-- The faults of a text that names no target. -/
def faults (text : String) : List Fault :=
  [.blank, .malformed text, .malformedPort text, .portOutOfRange text]

/-- A port is read, or it is a fault of the text. -/
theorem parsePort_cases (port : List Char) (text : String) :
    (∃ f ∈ faults text, parsePort port text = .error f) ∨
      ∃ n, parsePort port text = .ok n ∧ IsPort port n := by
  unfold parsePort
  split
  next => exact .inl ⟨_, by simp [faults], rfl⟩
  next n hn =>
    split
    next hrange => exact .inr ⟨n, rfl, hn, hrange⟩
    next => exact .inl ⟨_, by simp [faults], rfl⟩

theorem parsePort_of_isPort {port : List Char} {n : Int} (h : IsPort port n) (text : String) :
    parsePort port text = .ok n := by
  rw [parsePort, h.1]
  exact if_pos h.2

/-- A host with a port behind it is read, or the port is a fault of the text. -/
theorem parsePort_map_cases {cs port : List Char} (host : List Char) (text : String)
    (h : ∀ n, IsPort port n → Names cs ⟨.ofList host, n⟩) :
    (∃ f ∈ faults text, (parsePort port text).map (Target.mk (.ofList host)) = .error f) ∨
      ∃ t, (parsePort port text).map (Target.mk (.ofList host)) = .ok t ∧ Names cs t := by
  rcases parsePort_cases port text with ⟨f, hf, hport⟩ | ⟨n, hport, hn⟩
  · exact .inl ⟨f, hf, by rw [hport]; rfl⟩
  · exact .inr ⟨_, by rw [hport]; rfl, h n hn⟩

/-- A text that begins with a bracket ends its host at the first closing bracket. -/
theorem parseTrimmed_bracket (inner : List Char) :
    parseTrimmed ('[' :: inner) = match Url.cut (· == ']') inner with
      | (_, none) => .error (.malformed (.ofList ('[' :: inner)))
      | (host, some []) => .ok ⟨.ofList host, defaultPort⟩
      | (host, some (':' :: port)) =>
        (parsePort port (.ofList ('[' :: inner))).map (Target.mk (.ofList host))
      | (_, some _) => .error (.malformed (.ofList ('[' :: inner))) :=
  rfl

/-- A text that does not begin with a bracket ends its host at the last colon. -/
theorem parseTrimmed_plain {cs : List Char} (hne : cs ≠ []) (h : cs.head? ≠ some '[') :
    parseTrimmed cs = match Url.cutLast ':' cs with
      | (none, host) => .ok ⟨String.ofList host, defaultPort⟩
      | (some [], _) => .error (.malformed (.ofList cs))
      | (some host, port) => (parsePort port (.ofList cs)).map (Target.mk (.ofList host)) := by
  unfold parseTrimmed
  split
  next => exact absurd rfl hne
  next => exact absurd rfl h
  next => rfl

/-- The first character of a text is that of its beginning. -/
theorem head?_of_append {host more : List Char} (hne : host ≠ []) :
    (host ++ more).head? = host.head? := by
  obtain ⟨c, host, rfl⟩ := List.exists_cons_of_ne_nil hne
  rfl

/-- A text is read as a target that it names, or it has a fault. -/
theorem parseTrimmed_cases (cs : List Char) :
    (∃ f ∈ faults (.ofList cs), parseTrimmed cs = .error f) ∨
      ∃ t, parseTrimmed cs = .ok t ∧ Names cs t := by
  by_cases hnil : cs = []
  · exact .inl ⟨.blank, by simp [faults], by rw [hnil]; rfl⟩
  by_cases hhead : cs.head? = some '['
  · obtain ⟨inner, rfl⟩ := List.head?_eq_some_iff.1 hhead
    rw [parseTrimmed_bracket]
    rcases Url.cut_cases ']' inner with ⟨-, hcut⟩ | ⟨host, rest, rfl, hhost, hcut⟩
    · rw [hcut]
      exact .inl ⟨_, by simp [faults], rfl⟩
    · rw [hcut]
      split
      next heq => cases heq
      next heq =>
        cases heq
        exact .inr ⟨_, rfl, .bracketed hhost⟩
      next heq =>
        cases heq
        exact parsePort_map_cases _ _ fun n hn => .bracketedPort hhost hn
      next => exact .inl ⟨_, by simp [faults], rfl⟩
  · rw [parseTrimmed_plain hnil hhead]
    rcases Url.cutLast_cases ':' cs with ⟨hcolon, hcut⟩ | ⟨host, port, rfl, hcolon, hcut⟩
    · rw [hcut]
      exact .inr ⟨_, rfl, .plain hnil hhead hcolon⟩
    · rw [hcut]
      by_cases hne : host = []
      · subst hne
        exact .inl ⟨_, by simp [faults], rfl⟩
      · rw [head?_of_append hne] at hhead
        obtain ⟨c, host, rfl⟩ := List.exists_cons_of_ne_nil hne
        exact parsePort_map_cases _ _ fun n hn => .plainPort hne hhead hcolon hn

/-- A text that names a target is read as that target. -/
theorem Names.parseTrimmed_eq {cs : List Char} {t : Target} (h : Names cs t) :
    parseTrimmed cs = .ok t := by
  cases h with
  | @bracketed host hhost =>
    rw [List.cons_append, parseTrimmed, Url.cut_append hhost]
  | @bracketedPort host port n hhost hport =>
    rw [List.cons_append, parseTrimmed, Url.cut_append hhost]
    simp only [parsePort_of_isPort hport]
    rfl
  | plain hne hhead hcolon =>
    rw [parseTrimmed_plain hne hhead, Url.cutLast,
      Url.cut_of_not_mem (List.mem_reverse.not.2 hcolon)]
    simp
  | @plainPort host port n hne hhead hcolon hport =>
    rw [parseTrimmed_plain (by simp) (by rwa [head?_of_append hne]), Url.cutLast_append hcolon]
    obtain ⟨c, host, rfl⟩ := List.exists_cons_of_ne_nil hne
    simp only [parsePort_of_isPort hport]
    rfl

theorem parseTrimmed_eq_ok_iff {cs : List Char} {t : Target} :
    parseTrimmed cs = .ok t ↔ Names cs t := by
  refine ⟨fun h => ?_, Names.parseTrimmed_eq⟩
  rcases parseTrimmed_cases cs with ⟨f, -, hf⟩ | ⟨u, hu, hnames⟩
  · rw [hf] at h
    cases h
  · rw [hu] at h
    cases h
    exact hnames

/-! ## The text of a target -/

/-- A host that is read back from the text of its target. With a colon it stands in brackets, and
else it begins the text. -/
structure IsLegible (host : List Char) : Prop where
  ne_nil : host ≠ []
  closed : ':' ∈ host → ']' ∉ host
  head : ':' ∉ host → ∀ c, host.head? = some c → c ≠ '[' ∧ isBlank c = false

/-- The host as it stands in the text of a target. -/
def front (host : List Char) : List Char :=
  if ':' ∈ host then '[' :: host ++ [']'] else host

variable {host : List Char} {n : Int}

/-- The text of a port has no blanks, colons or brackets. -/
theorem decimal_port (h0 : 0 < n) (h1 : n < 65536) : IsPort (decimal n) n ∧ decimal n ≠ [] ∧
    ∀ c ∈ decimal n, isBlank c = false ∧ c ≠ ':' ∧ c ≠ ']' := by
  obtain ⟨k, rfl⟩ := Int.eq_ofNat_of_zero_le h0.le
  have hlength : (digits k).length ≤ Numeral.digitLimit := by
    have h5 : (digits k).length ≤ 5 :=
      (Nat.length_toDigits_le_iff (by decide) (by decide)).2 (by omega)
    exact h5.trans (by decide)
  refine ⟨⟨Numeral.int?_decimal _ hlength, h0, h1⟩, Nat.toDigits_ne_nil, ?_⟩
  obtain ⟨ds, hsmall, hdigits, -⟩ := exists_digits k
  have hdigit : ∀ d < 10, isBlank (Nat.digitChar d) = false ∧ Nat.digitChar d ≠ ':' ∧
      Nat.digitChar d ≠ ']' := by
    decide
  change ∀ c ∈ digits k, _
  rw [hdigits, List.forall_mem_map]
  exact fun d hd => hdigit d (hsmall d hd)

/-- The text of a target loses only blanks at its beginning when it is trimmed. -/
theorem trim_toChars (h0 : 0 < n) (h1 : n < 65536) :
    trim (toChars ⟨.ofList host, n⟩) =
      (front host).dropWhile isBlank ++ ':' :: decimal n := by
  have hchars : toChars ⟨.ofList host, n⟩ = front host ++ ':' :: decimal n := by
    rw [toChars, String.toList_ofList, front]
  rw [hchars]
  exact trim_append (List.cons_ne_nil _ _)
    (List.forall_mem_cons.2 ⟨rfl, fun c hc => ((decimal_port h0 h1).2.2 c hc).1⟩) _

/-- A text has one first colon. -/
theorem append_colon_inj {before before' after after' : List Char}
    (h : before ++ ':' :: after = before' ++ ':' :: after') (hb : ':' ∉ before)
    (hb' : ':' ∉ before') : before = before' := by
  have hcut := congrArg (Url.cut (· == ':')) h
  rw [Url.cut_append hb, Url.cut_append hb'] at hcut
  exact (Prod.mk.inj hcut).1

theorem front_of_mem (h : ':' ∈ host) :
    (front host).dropWhile isBlank = '[' :: host ++ [']'] := by
  rw [front, if_pos h]
  rfl

theorem front_of_not_mem (h : ':' ∉ host) : front host = host := if_neg h

/-- The text of a target names it if the host is legible. -/
theorem IsLegible.names (h : IsLegible host) (h0 : 0 < n) (h1 : n < 65536) :
    Names ((front host).dropWhile isBlank ++ ':' :: decimal n) ⟨.ofList host, n⟩ := by
  obtain ⟨hport, hne, hchars⟩ := decimal_port h0 h1
  by_cases hcolon : ':' ∈ host
  · rw [front_of_mem hcolon, List.append_assoc]
    exact .bracketedPort (h.closed hcolon) hport
  · obtain ⟨c, more, rfl⟩ := List.exists_cons_of_ne_nil h.ne_nil
    obtain ⟨hbracket, hblank⟩ := h.head hcolon c rfl
    rw [front_of_not_mem hcolon, List.dropWhile_cons_of_neg (by simp [hblank])]
    exact .plainPort h.ne_nil (by simpa using hbracket)
      (fun hmem => (hchars _ hmem).2.1 rfl) hport

/-- A host is legible if the text of the target names it. -/
theorem isLegible_of_names (h0 : 0 < n) (h1 : n < 65536)
    (h : Names ((front host).dropWhile isBlank ++ ':' :: decimal n) ⟨.ofList host, n⟩) :
    IsLegible host := by
  obtain ⟨-, hne, hchars⟩ := decimal_port h0 h1
  have hfront (hcolon : ':' ∉ host) : ':' ∉ (front host).dropWhile isBlank := by
    rw [front_of_not_mem hcolon]
    exact fun hmem => hcolon ((List.dropWhile_sublist _).subset hmem)
  generalize htext : (front host).dropWhile isBlank ++ ':' :: decimal n = text at h
  generalize ht : Target.mk (.ofList host) n = t at h
  cases h with
  | bracketed =>
    -- The text ends with a digit.
    have hlast := congrArg List.getLast? htext
    rw [List.getLast?_append_of_ne_nil _ (List.cons_ne_nil _ _), List.getLast?_cons_of_ne_nil hne,
      List.getLast?_concat] at hlast
    exact absurd rfl (hchars _ (List.mem_of_getLast? hlast)).2.2
  | @bracketedPort _ port _ hclosed _ =>
    obtain rfl := String.ofList_injective (Target.mk.inj ht).1
    by_cases hcolon : ':' ∈ host
    · exact ⟨List.ne_nil_of_mem hcolon, fun _ => hclosed, absurd hcolon⟩
    · -- Without a colon the host has not grown by the brackets.
      have htext' : (front host).dropWhile isBlank ++ ':' :: decimal n =
          ('[' :: host ++ [']']) ++ ':' :: port := htext.trans (by simp)
      have hhost := append_colon_inj htext' (hfront hcolon) (by simpa using hcolon)
      have hlength := (List.dropWhile_sublist (l := host) isBlank).length_le
      rw [front_of_not_mem hcolon] at hhost
      rw [hhost, List.length_append, List.length_cons] at hlength
      omega
  | plain _ _ hcolon => exact absurd (htext ▸ by simp) hcolon
  | plainPort hhost hhead hport' =>
    obtain rfl := String.ofList_injective (Target.mk.inj ht).1
    by_cases hcolon : ':' ∈ host
    · rw [front_of_mem hcolon] at htext
      have hfirst := congrArg List.head? htext
      rw [head?_of_append hhost] at hfirst
      exact absurd hfirst.symm hhead
    · have hkept : host.dropWhile isBlank = host := by
        have hfront' := hfront hcolon
        rw [front_of_not_mem hcolon] at htext hfront'
        exact append_colon_inj htext hfront' hcolon
      refine ⟨hhost, fun hmem => absurd hmem hcolon, fun _ c hc => ⟨?_, ?_⟩⟩
      · rintro rfl
        exact hhead hc
      · have hnot := List.head?_dropWhile_not isBlank host
        rw [hkept, hc] at hnot
        simpa using hnot

/-- A target is read back from its text just if its host is legible. -/
theorem parse_toString_iff {t : Target} (h0 : 0 < t.port) (h1 : t.port < 65536) :
    parse t.toString = .ok t ↔ IsLegible t.host.toList := by
  obtain ⟨name, n⟩ := t
  obtain ⟨host, rfl⟩ : ∃ host, name = .ofList host := ⟨name.toList, String.ofList_toList.symm⟩
  rw [parse, toString, String.toList_ofList, String.toList_ofList, parseTrimmed_eq_ok_iff,
    trim_toChars h0 h1]
  exact ⟨isLegible_of_names h0 h1, fun h => h.names h0 h1⟩

/-- A target is read back from its text if its host is neither empty nor holds a bracket, and has
no blanks around it. -/
theorem parse_toString {t : Target} (hhost : t.host ≠ "")
    (hbrackets : '[' ∉ t.host.toList ∧ ']' ∉ t.host.toList) (htrim : trimmed t.host = t.host)
    (hport : 0 < t.port ∧ t.port < 65536) : parse t.toString = .ok t := by
  rw [parse_toString_iff hport.1 hport.2]
  have hkept : trim t.host.toList = t.host.toList :=
    String.toList_ofList.symm.trans (congrArg String.toList htrim)
  refine ⟨fun hnil => hhost (String.toList_eq_nil_iff.1 hnil), fun _ => hbrackets.2,
    fun _ c hc => ?_⟩
  obtain ⟨more, hmore⟩ := List.head?_eq_some_iff.1 hc
  rw [hmore] at hbrackets hkept
  refine ⟨?_, isBlank_of_trim_eq hkept⟩
  rintro rfl
  exact hbrackets.1 List.mem_cons_self

/-- An address with a zone is read back from its text. -/
theorem parse_toString_sample :
    toString ⟨"fe80::1%eth 0", 443⟩ = "[fe80::1%eth 0]:443" ∧
      parse (toString ⟨"fe80::1%eth 0", 443⟩) = .ok ⟨"fe80::1%eth 0", 443⟩ :=
  ⟨by decide +kernel, parse_toString (by decide) (by decide) (by decide +kernel) (by decide)⟩

/-! ## Targets that were read -/

/-- A target that has a host and a port and is read back from its text. -/
structure IsUsable (t : Target) : Prop where
  host : t.host ≠ ""
  port : 0 < t.port ∧ t.port < 65536
  readBack : parse t.toString = .ok t

/-- A text that names a target with a host that is not legible: one in brackets that is empty or
begins with a bracket or a blank and has no colon, or one without brackets around it that holds a
colon and a closing bracket. -/
def Slips (text : List Char) : Prop :=
  (∃ host rest, text = '[' :: host ++ ']' :: rest ∧ ']' ∉ host ∧ ':' ∉ host ∧
    ∀ c, host.head? = some c → c = '[' ∨ isBlank c = true) ∨
  text.head? ≠ some '[' ∧
    ∃ host port, text = host ++ ':' :: port ∧ ':' ∉ port ∧ ':' ∈ host ∧ ']' ∈ host

theorem slips_bracket_iff {rest : List Char} (hclosed : ']' ∉ host) :
    Slips ('[' :: host ++ ']' :: rest) ↔
      ':' ∉ host ∧ ∀ c, host.head? = some c → c = '[' ∨ isBlank c = true := by
  constructor
  · rintro (⟨host', rest', heq, hclosed', h⟩ | ⟨hhead, -⟩)
    · rw [List.cons_append, List.cons_append, List.cons.injEq] at heq
      have hcut := congrArg (Url.cut (· == ']')) heq.2
      rw [Url.cut_append hclosed, Url.cut_append hclosed'] at hcut
      cases hcut
      exact h
    · exact absurd rfl hhead
  · exact fun h => .inl ⟨host, rest, rfl, hclosed, h⟩

theorem slips_plain_iff {port : List Char} (hhead : (host ++ ':' :: port).head? ≠ some '[')
    (hport : ':' ∉ port) : Slips (host ++ ':' :: port) ↔ ':' ∈ host ∧ ']' ∈ host := by
  constructor
  · rintro (⟨host', rest', heq, -⟩ | ⟨-, host', port', heq, hport', h⟩)
    · exact absurd (congrArg List.head? heq) hhead
    · have hcut := congrArg (Url.cutLast ':') heq
      rw [Url.cutLast_append hport, Url.cutLast_append hport'] at hcut
      cases hcut
      exact h
  · exact fun h => .inr ⟨hhead, host, port, rfl, hport, h⟩

/-- The target that a trimmed text names has a legible host, unless the text slips. -/
theorem Names.isLegible_iff {text : List Char} {t : Target} (h : Names text t)
    (hblank : ∀ c, text.head? = some c → isBlank c = false) :
    IsLegible t.host.toList ↔ ¬Slips text := by
  have hbracket {host rest : List Char} (hclosed : ']' ∉ host) :
      IsLegible host ↔ ¬Slips ('[' :: host ++ ']' :: rest) := by
    rw [slips_bracket_iff hclosed]
    constructor
    · rintro h ⟨hcolon, hhead⟩
      obtain ⟨c, more, rfl⟩ := List.exists_cons_of_ne_nil h.ne_nil
      obtain ⟨hopen, hblank⟩ := h.head hcolon c rfl
      rcases hhead c rfl with hc | hc
      · exact hopen hc
      · rw [hblank] at hc
        cases hc
    · intro hslip
      refine ⟨?_, fun _ => hclosed, fun hcolon c hc => ?_⟩
      · rintro rfl
        exact hslip ⟨List.not_mem_nil, fun c hc => nomatch hc⟩
      · by_contra hbad
        refine hslip ⟨hcolon, fun d hd => ?_⟩
        obtain rfl := Option.some.inj (hc.symm.trans hd)
        rw [not_and_or, not_not, Bool.not_eq_false] at hbad
        exact hbad
  cases h with
  | bracketed hclosed =>
    rw [String.toList_ofList]
    exact hbracket hclosed
  | bracketedPort hclosed =>
    rw [String.toList_ofList]
    exact hbracket hclosed
  | plain hne hhead hcolon =>
    rw [String.toList_ofList]
    refine iff_of_true ⟨hne, fun hmem => absurd hmem hcolon, fun _ c hc => ⟨?_, hblank c hc⟩⟩ ?_
    · rintro rfl
      exact hhead hc
    · rintro (⟨host', rest, rfl, -⟩ | ⟨-, host', port, rfl, -⟩)
      · exact hhead rfl
      · exact hcolon (by simp)
  | plainPort hne hhead hport =>
    rw [← head?_of_append hne] at hhead
    rw [String.toList_ofList, slips_plain_iff hhead hport]
    rw [head?_of_append hne] at hhead hblank
    refine ⟨fun h ⟨hcolon, hclosed⟩ => h.closed hcolon hclosed, fun hslip => ?_⟩
    refine ⟨hne, fun hcolon hclosed => hslip ⟨hcolon, hclosed⟩, fun _ c hc => ⟨?_, hblank c hc⟩⟩
    rintro rfl
    exact hhead hc

/-- The port of a target that a text names is in range. -/
theorem Names.port {text : List Char} {t : Target} (h : Names text t) :
    0 < t.port ∧ t.port < 65536 := by
  cases h with
  | bracketed | plain => exact (by decide : 0 < defaultPort ∧ defaultPort < 65536)
  | bracketedPort _ hport => exact hport.2
  | plainPort _ _ _ hport => exact hport.2

/-- A text has a fault, or it is read as a target with a port in range, which is usable just if the
text does not slip. -/
theorem parse_usable_iff (s : String) :
    (∃ f ∈ faults (trimmed s), parse s = .error f) ∨
      ∃ t, parse s = .ok t ∧ (0 < t.port ∧ t.port < 65536) ∧
        (t.IsUsable ↔ ¬Slips (trim s.toList)) := by
  rcases parseTrimmed_cases (trim s.toList) with hfault | ⟨t, ht, hnames⟩
  · exact .inl hfault
  · have hblank (c : Char) (hc : (trim s.toList).head? = some c) : isBlank c = false := by
      obtain ⟨more, hmore⟩ := List.head?_eq_some_iff.1 hc
      exact isBlank_of_trim_eq hmore
    obtain ⟨h0, h1⟩ := hnames.port
    refine .inr ⟨t, ht, ⟨h0, h1⟩, ?_⟩
    rw [← hnames.isLegible_iff hblank, ← parse_toString_iff h0 h1]
    refine ⟨IsUsable.readBack, fun hread => ⟨?_, ⟨h0, h1⟩, hread⟩⟩
    intro hnil
    exact ((parse_toString_iff h0 h1).1 hread).ne_nil (String.toList_eq_nil_iff.2 hnil)

/-- Every text has a fault, or it is read as a usable target. -/
def ReadsUsable : Prop :=
  ∀ s, (∃ f, parse s = .error f) ∨ ∃ t, parse s = .ok t ∧ t.IsUsable

/-- Brackets without a host in them are read as a target without a host. -/
theorem not_readsUsable_of_empty : ¬ReadsUsable := by
  intro h
  have hempty : parse "[]" = .ok ⟨"", 8500⟩ := by decide +kernel
  rcases h "[]" with ⟨f, hf⟩ | ⟨t, ht, husable⟩
  · rw [hempty] at hf
    cases hf
  · rw [hempty] at ht
    cases ht
    exact husable.host rfl

end Target

end BlockingQuery
