import BlockingQuery.Proofs.Http.Path
import Mathlib.Data.List.Basic

/-!
# Hosts that stand in a URL as they are

Addresses, and names of small letters, digits, hyphens and dots, are hosts that a URL keeps
(`Url.IsKept`): their normal form is the host itself (`Url.IsKept.normalHost_eq`), and so is what is
read back (`Url.IsKept.hostName_eq`). An address of version 6 stands in brackets for that, which no
address begins with (`Address.head_of_isIpv6`).
-/

namespace BlockingQuery

/-! ## The characters of addresses -/

namespace Address

/-- A hexadecimal digit. -/
def isHexDigit (c : Char) : Bool :=
  c.isDigit || ('a' ≤ c && c ≤ 'f') || ('A' ≤ c && c ≤ 'F')

/-- A character of an address of version 6 without a zone. -/
def isAddressChar (c : Char) : Bool :=
  isHexDigit c || c == '.' || c == ':'

variable {cs part : List Char} {parts : List (List Char)} {c : Char}

/-- A character of a text is the separator, or it is in a part. -/
theorem mem_part (sep : Char) (h : c ∈ cs) : c = sep ∨ ∃ part ∈ cs.splitOn sep, c ∈ part := by
  have hparts : [sep].intercalate (cs.splitOn sep) = cs := List.intercalate_splitOn sep
  rw [← hparts] at h
  exact Url.mem_intercalate h

theorem isDigit_of_isOctet (h : isOctet part = true) :
    part ≠ [] ∧ part.all Char.isDigit = true := by
  simp only [isOctet, Bool.and_eq_true, Bool.not_eq_true', List.isEmpty_eq_false_iff] at h
  exact ⟨h.1.1.1.1, h.1.1.1.2⟩

/-- An address of version 4 looks like one. -/
theorem looksLikeIpv4_of_isIpv4 (h : isIpv4 cs = true) : looksLikeIpv4 cs = true := by
  simp only [isIpv4, looksLikeIpv4, Bool.and_eq_true, List.all_eq_true] at h ⊢
  refine ⟨h.1, fun part hpart => ?_⟩
  obtain ⟨hne, hdigits⟩ := isDigit_of_isOctet (h.2 part hpart)
  simpa [hne] using hdigits

/-- What looks like an address of version 4 is made of digits and dots. -/
theorem mem_of_looksLikeIpv4 (h : looksLikeIpv4 cs = true) (hc : c ∈ cs) :
    c.isDigit = true ∨ c = '.' := by
  rcases mem_part '.' hc with hdot | ⟨part, hpart, hc⟩
  · exact .inr hdot
  · simp only [looksLikeIpv4, Bool.and_eq_true, List.all_eq_true] at h
    exact .inl ((h.2 part hpart).2 c hc)

/-- A hextet is made of hexadecimal digits. -/
theorem isHexDigit_of_isHextet (h : isHextet part = true) : part.all isHexDigit = true := by
  simp only [isHextet, Bool.and_eq_true] at h
  exact h.2

/-- A list ends with its last element. -/
theorem dropLast_append_getLastD (h : parts ≠ []) :
    parts.dropLast ++ [parts.getLastD []] = parts := by
  rw [List.getLastD_eq_getLast?, List.getLast?_eq_some_getLast h]
  exact List.dropLast_concat_getLast h

/-- The parts of an address between colons are those that are counted, but for an address of version
4 at the end. -/
theorem hextets?_eq_some (h : hextets? cs = some parts) :
    3 ≤ (cs.splitOn ':').length ∧ ∀ part ∈ cs.splitOn ':', part ∈ parts ∨ isIpv4 part = true := by
  unfold hextets? at h
  dsimp only at h
  split at h
  next => cases h
  next hlength =>
    refine ⟨Nat.not_lt.1 hlength, fun part hpart => ?_⟩
    split at h
    next =>
      split at h
      next hlast =>
        cases h
        rw [← dropLast_append_getLastD (List.splitOn_ne_nil ':' cs)] at hpart
        rcases List.mem_append.1 hpart with hpart | hpart
        · exact .inl (List.mem_append_left _ hpart)
        · rw [List.mem_singleton.1 hpart]
          exact .inr hlast
      next => cases h
    next =>
      cases h
      exact .inl hpart

/-- An end of an address is made of hextets, if it is not empty. -/
theorem isHextet_of_isEnd (h : isEnd parts = true) (hpart : part ∈ parts) :
    part = [] ∨ isHextet part = true := by
  rcases Bool.or_eq_true_iff.1 h with h | h
  · rw [beq_iff_eq] at h
    rw [h] at hpart
    exact .inl (List.mem_singleton.1 hpart)
  · exact .inr (List.all_eq_true.1 h part hpart)

/-- A part of an address with a gap is the gap, or it stands before it or after it. -/
theorem mem_of_gap (hlength : 2 ≤ parts.length) (hpart : part ∈ parts) :
    let inner := (parts.drop 1).dropLast
    part = [] ∨ part ∈ parts.headD [] :: inner.takeWhile (· != []) ∨
      part ∈ (inner.dropWhile (· != [])).drop 1 ++ [parts.getLastD []] := by
  obtain ⟨first, second, rest, rfl⟩ : ∃ first second rest, parts = first :: second :: rest := by
    match parts, hlength with
    | first :: second :: rest, _ => exact ⟨first, second, rest, rfl⟩
  intro inner
  rcases List.mem_cons.1 hpart with rfl | hpart
  · exact .inr (.inl List.mem_cons_self)
  have hlast : inner ++ [(first :: second :: rest).getLastD []] = second :: rest := by
    change (second :: rest).dropLast ++ _ = _
    simpa only [List.getLastD_cons] using dropLast_append_getLastD (List.cons_ne_nil second rest)
  rw [← hlast, ← List.takeWhile_append_dropWhile (p := (· != [])) (l := inner)] at hpart
  rcases List.mem_append.1 hpart with hinner | hpart
  · rcases List.mem_append.1 hinner with hbefore | hafter
    · exact .inr (.inl (List.mem_cons_of_mem _ hbefore))
    · have hgap := List.head?_dropWhile_not (· != []) inner
      cases hdrop : inner.dropWhile (· != []) with
      | nil =>
        rw [hdrop] at hafter
        cases hafter
      | cons gap after =>
        rw [hdrop] at hafter hgap
        rcases List.mem_cons.1 hafter with rfl | hafter
        · exact .inl (by simpa using hgap)
        · exact .inr (.inr (List.mem_append_left _ hafter))
  · exact .inr (.inr (List.mem_append_right _ hpart))

/-- An address of version 6 without its zone. -/
def address (cs : List Char) : List Char :=
  cs.takeWhile (· != '%')

/-- The parts of an address of version 6 are hextets, but for the gap and an address of version
4. -/
theorem parts_of_isIpv6 (h : isIpv6 cs = true) : 3 ≤ ((address cs).splitOn ':').length ∧
    ∀ part ∈ (address cs).splitOn ':', part = [] ∨ isHextet part = true ∨ isIpv4 part = true := by
  unfold isIpv6 at h
  dsimp only at h
  rw [Bool.and_eq_true] at h
  replace h := h.2
  split at h
  next => cases h
  next parts hparts =>
    obtain ⟨hlength, hmem⟩ := hextets?_eq_some hparts
    refine ⟨hlength, fun part hpart => ?_⟩
    rcases hmem part hpart with hpart | hipv4
    · rw [← or_assoc]
      refine .inl ?_
      split at h
      next hgap =>
        simp only [Bool.and_eq_true] at h
        have htwo : 2 ≤ parts.length := by
          have hinner := List.length_pos_of_mem (List.contains_iff_mem.1 hgap)
          rw [List.length_dropLast, List.length_drop] at hinner
          omega
        rcases mem_of_gap htwo hpart with hgap | hbefore | hafter
        · exact .inl hgap
        · exact isHextet_of_isEnd h.1.1.1 hbefore
        · exact isHextet_of_isEnd h.1.1.2 hafter
      next =>
        rw [Bool.and_eq_true] at h
        exact .inr (List.all_eq_true.1 h.2 part hpart)
    · exact .inr (.inr hipv4)

/-- An address of version 6 without its zone has only characters of addresses. -/
theorem isAddressChar_of_isIpv6 (h : isIpv6 cs = true) (hc : c ∈ address cs) :
    isAddressChar c = true := by
  rcases mem_part ':' hc with rfl | ⟨part, hpart, hc⟩
  · rfl
  · unfold isAddressChar
    rcases (parts_of_isIpv6 h).2 part hpart with rfl | hhextet | hipv4
    · cases hc
    · simp [List.all_eq_true.1 (isHexDigit_of_isHextet hhextet) c hc]
    · rcases mem_of_looksLikeIpv4 (looksLikeIpv4_of_isIpv4 hipv4) hc with hdigit | rfl
      · simp [isHexDigit, hdigit]
      · rfl

/-- The characters of addresses are ASCII. -/
theorem isAscii_of_isAddressChar (h : isAddressChar c = true) : c.toNat < 128 := by
  have below {d : Char} (h : c ≤ d) (hd : d.toNat < 128) : c.toNat < 128 :=
    lt_of_le_of_lt (UInt32.le_iff_toNat_le.1 h) hd
  simp only [isAddressChar, isHexDigit, Char.isDigit, Bool.or_eq_true, Bool.and_eq_true,
    decide_eq_true_eq, beq_iff_eq] at h
  rcases h with (((h | h) | h) | rfl) | rfl
  · exact below (d := '9') h.2 (by decide)
  · exact below h.2 (by decide)
  · exact below h.2 (by decide)
  · decide
  · decide

/-- An address of version 6 holds a colon. -/
theorem colon_mem_of_isIpv6 (h : isIpv6 cs = true) : ':' ∈ address cs := by
  by_contra hcolon
  have hlength := (parts_of_isIpv6 h).1
  rw [Url.splitOn_of_not_mem hcolon] at hlength
  simp at hlength

/-- An address of version 6 begins with a character of its own, before any zone. -/
theorem head_of_isIpv6 (h : isIpv6 cs = true) :
    ∃ c more, cs = c :: more ∧ isAddressChar c = true := by
  have hcolon := colon_mem_of_isIpv6 h
  cases cs with
  | nil => cases hcolon
  | cons c more =>
    refine ⟨c, more, rfl, isAddressChar_of_isIpv6 h ?_⟩
    rw [address, List.takeWhile_cons] at hcolon ⊢
    split at hcolon
    next hc =>
      rw [if_pos hc]
      exact List.mem_cons_self
    next => cases hcolon

end Address

/-! ## Hosts that a URL keeps -/

namespace Url

open Address

/-- A small letter, a digit, a hyphen or a dot. -/
def isNameChar (c : Char) : Bool :=
  c.isLower || c.isDigit || c == '-' || c == '.'

/-- A name of small letters, digits, hyphens and dots, which is neither taken for an address nor
decoded. -/
structure IsPlainName (host : List Char) : Prop where
  ne_nil : host ≠ []
  plain : host.all isNameChar = true
  no_address : looksLikeIpv4 host = false
  no_mark : ¬DomainName.mark <+: host

/-- A host that stands in a URL as it is: an address or a plain name. -/
inductive IsKept (host : List Char) : Prop
  | ipv4 : isIpv4 host = true → IsKept host
  | ipv6 : isIpv6 host = true → IsKept host
  | name : IsPlainName host → IsKept host

variable {host : List Char} {c : Char} {u : Url}

/-! ### Their characters -/

/-- A character of an address is neither an opening bracket nor the first of the mark of an encoded
name. -/
theorem ne_of_isAddressChar (h : isAddressChar c = true) : c ≠ '[' ∧ c ≠ 'x' := by
  refine Percent.of_isAscii (P := fun c => isAddressChar c = true → c ≠ '[' ∧ c ≠ 'x') ?_
    (isAscii_of_isAddressChar h) h
  decide +kernel

/-- The characters of names are unreserved, and no capitals. -/
theorem plain_of_isNameChar (h : isNameChar c = true) :
    Percent.isUnreserved c = true ∧ c.toLower = c ∧ c ≠ ':' ∧ c ≠ '[' := by
  have hunreserved : Percent.isUnreserved c = true := by
    simp only [isNameChar, Bool.or_eq_true, beq_iff_eq] at h
    rcases h with ((h | h) | rfl) | rfl
    · have halpha : c.isAlpha = true := Bool.or_eq_true_iff.2 (.inr h)
      simp [Percent.isUnreserved, Char.isAlphanum, halpha]
    · simp [Percent.isUnreserved, Char.isAlphanum, h]
    · rfl
    · rfl
  refine ⟨hunreserved, ?_⟩
  refine Percent.of_isAscii (P := fun c => isNameChar c = true →
    c.toLower = c ∧ c ≠ ':' ∧ c ≠ '[') ?_ (Percent.isAscii_of_isUnreserved hunreserved) h
  decide +kernel

/-! ### Their normal form -/

/-- A host without a colon is written without brackets. -/
theorem bracketed_of_not_mem (h : ':' ∉ host) : bracketed host = host := by
  have hcontains : host.contains ':' = false := by simpa using h
  rw [bracketed, hcontains]
  rfl

/-- An address of version 6 is written in brackets. -/
theorem bracketed_of_isIpv6 (h : isIpv6 host = true) : bracketed host = '[' :: host ++ [']'] := by
  have hcolon : host.contains ':' = true :=
    List.contains_iff_mem.2 ((List.takeWhile_sublist _).subset (colon_mem_of_isIpv6 h))
  obtain ⟨c, more, rfl, hc⟩ := head_of_isIpv6 h
  have hhead : ((c :: more).head? == some '[') = false := by
    simpa using (ne_of_isAddressChar hc).1
  rw [bracketed, hcolon, hhead]
  rfl

/-- An address of version 4 is its own normal form. -/
theorem normalHost_of_isIpv4 (h : isIpv4 host = true) : normalHost host = .ok host := by
  have hlooks := looksLikeIpv4_of_isIpv4 h
  have hne : host.isEmpty = false := by
    cases host with
    | nil => cases h
    | cons => rfl
  simp [normalHost, hne, hlooks, h]

/-- An address of version 6 is the normal form of the address in brackets. -/
theorem normalHost_of_isIpv6 (h : isIpv6 host = true) :
    normalHost ('[' :: host ++ [']']) = .ok host := by
  have hlooks : looksLikeIpv4 ('[' :: (host ++ [']'])) = false := by
    refine Bool.eq_false_iff.2 fun hlooks => ?_
    rcases mem_of_looksLikeIpv4 hlooks List.mem_cons_self with hc | hc <;> cases hc
  have hlast : ('[' :: (host ++ [']'])).getLast? = some ']' := by
    rw [← List.cons_append, List.getLast?_concat]
  rw [List.cons_append, normalHost, hlast]
  simp [hlooks, h]

/-- A plain name is its own normal form. -/
theorem IsPlainName.normalHost_eq (h : IsPlainName host) : normalHost host = .ok host := by
  have hchar (c : Char) (hc : c ∈ host) := plain_of_isNameChar (List.all_eq_true.1 h.plain c hc)
  have hascii : (host.all fun c => decide (c.toNat < 0x80)) = true :=
    List.all_eq_true.2 fun c hc => decide_eq_true (Percent.isAscii_of_isUnreserved (hchar c hc).1)
  have hlower : host.map Char.toLower = host :=
    (List.map_congr_left fun c hc => (hchar c hc).2.1).trans (List.map_id host)
  have hsafe : host.all isHostSafe = true :=
    List.all_eq_true.2 fun c hc => Bool.or_eq_true_iff.2 (.inl (hchar c hc).1)
  have hhead : (host.head? == some '[') = false := by
    obtain ⟨c, more, rfl⟩ := List.exists_cons_of_ne_nil h.ne_nil
    simpa using (hchar c List.mem_cons_self).2.2.2
  have hne : host.isEmpty = false := List.isEmpty_eq_false_iff.2 h.ne_nil
  unfold normalHost
  simp only [hne, h.no_address, hhead, hascii, hlower, Percent.encode_of_all hsafe,
    Bool.false_eq_true, Bool.false_and, if_true, if_false]

/-- A host that a URL keeps is its own normal form. -/
theorem IsKept.normalHost_eq (h : IsKept host) : normalHost (bracketed host) = .ok host := by
  cases h with
  | ipv4 h =>
    have hcolon : ':' ∉ host := by
      intro hc
      rcases mem_of_looksLikeIpv4 (looksLikeIpv4_of_isIpv4 h) hc with hc | hc <;> cases hc
    rw [bracketed_of_not_mem hcolon]
    exact normalHost_of_isIpv4 h
  | ipv6 h =>
    rw [bracketed_of_isIpv6 h]
    exact normalHost_of_isIpv6 h
  | name h =>
    have hcolon : ':' ∉ host := fun hc =>
      (plain_of_isNameChar (List.all_eq_true.1 h.plain _ hc)).2.2.1 rfl
    rw [bracketed_of_not_mem hcolon]
    exact h.normalHost_eq

/-- A host that a URL keeps is not empty. -/
theorem IsKept.ne_nil (h : IsKept host) : host ≠ [] := by
  rintro rfl
  cases h with
  | ipv4 h => cases h
  | ipv6 h => cases h
  | name h => exact h.ne_nil rfl

/-- A host that a URL keeps is not in punycode. -/
theorem IsKept.no_mark (h : IsKept host) : ¬DomainName.mark <+: host := by
  rintro ⟨more, rfl⟩
  cases h with
  | ipv4 h =>
    have hx := mem_of_looksLikeIpv4 (looksLikeIpv4_of_isIpv4 h) List.mem_cons_self
    rcases hx with hx | hx <;> cases hx
  | ipv6 h =>
    obtain ⟨c, rest, heq, hc⟩ := head_of_isIpv6 h
    cases heq
    exact (ne_of_isAddressChar hc).2 rfl
  | name h => exact h.no_mark (List.prefix_append _ _)

/-- A host that a URL keeps is read as it is. -/
theorem IsKept.hostName_eq (h : IsKept u.host) : u.hostName = .ok u.host :=
  if_neg fun hmark => h.no_mark (List.isPrefixOf_iff_prefix.1 hmark)

end Url

end BlockingQuery
