import BlockingQuery.Proofs.Json.Scanner

/-!
# What the reader of JSON reads

The reader reads what the grammar says, up to its own limits. Whatever it reads is there
(`writes_of_ofCodePoints`), and whatever is there it reads, if it does not come to a limit
(`ofCodePoints_of_writes`). Both are shown for values, items and members at once, by induction on
the fuel: `Sound` and `Complete` say what holds with some fuel, and the lemmas named `_succ` that it
holds with one unit more. That the fuel is enough is counted by the length of the text, of which
each value takes something (`Value.takes`).

Which texts it comes to a limit in is told in `BlockingQuery.Proofs.Json.Limits`.
-/

namespace BlockingQuery.Json

open Text Grammar

/-! ## Values -/

/-- Only strings, arrays and objects begin as they do. -/
theorem readValue_plain {n room : Nat} {cs : CodePoints}
    (h : Stops isMark cs) :
    readValue (n + 1) room cs = readPlain cs := by
  unfold readValue
  split
  next => cases h _ rfl
  next => cases h _ rfl
  next => cases h _ rfl
  next => rfl

/-- A digit is no space, and begins no other value. -/
theorem plain_of_isDigit {c : CodePoint} (h : isDigit c = true) :
    isSpace c = false ∧ isMark c = false := by
  constructor
  · cases hspace : isSpace c with
    | false => rfl
    | true =>
      simp only [isSpace, Bool.or_eq_true, beq_iff_eq] at hspace
      rcases hspace with ((rfl | rfl) | rfl) | rfl <;> cases h
  · cases hmark : isMark c with
    | false => rfl
    | true =>
      simp only [isMark, Bool.or_eq_true, beq_iff_eq] at hmark
      rcases hmark with ((rfl | rfl) | rfl) | rfl <;> cases h

/-! ## What is read is there -/

/-- What values, arrays and objects are read to with some fuel are values, items and members. -/
structure Sound (n : Nat) : Prop where
  value : ∀ {room cs v rest}, readValue n room cs = .ok (v, rest) → Value cs v rest
  items : ∀ {room before cs v rest}, readItems n room before cs = .ok (v, rest) →
    ∃ vs, v = .arr (before.reverse ++ vs) ∧ Items cs vs rest
  members : ∀ {room before cs v rest}, readMembers n room before cs = .ok (v, rest) →
    ∃ ms, v = .obj (membersOf before ms) ∧ Members cs ms rest

/-- A name is read. -/
theorem units_of_readString {cs rest t : CodePoints} (h : readString cs = some (t, rest)) :
    ∃ us, t = joinNumbered us ∧ Units cs us rest := by
  obtain ⟨⟨us, rest'⟩, hunits, heq⟩ := Option.map_eq_some_iff.1 h
  cases heq
  exact ⟨us, rfl, units_of_readUnits hunits⟩

/-- A text from the first code point on that is no space. -/
theorem spaces_of_skipSpace {cs rest : CodePoints} (h : skipSpace cs = rest) : Spaces cs rest :=
  h ▸ spaces_skipSpace cs

section
variable {n room : Nat} {cs rest : CodePoints} {v : Json}

theorem Sound.value_succ (h : Sound n) (hread : readValue (n + 1) room cs = .ok (v, rest)) :
    Value cs v rest := by
  unfold readValue at hread
  split at hread
  next more =>
    split at hread
    next t rest hstring =>
      cases hread
      obtain ⟨us, rfl, hunits⟩ := units_of_readString hstring
      exact .string hunits
    next => cases hread
  next more =>
    split at hread
    next => cases hread
    next hspaces =>
      cases hread
      exact .noItems (spaces_of_skipSpace hspaces)
    next =>
      obtain ⟨vs, rfl, hitems⟩ := h.items hread
      exact .items (spaces_skipSpace _) hitems
  next more =>
    split at hread
    next => cases hread
    next hspaces =>
      cases hread
      exact .noMembers (spaces_of_skipSpace hspaces)
    next =>
      obtain ⟨ms, rfl, hmembers⟩ := h.members hread
      exact .members (spaces_skipSpace _) hmembers
  next => exact value_of_readPlain hread

theorem Sound.items_succ (h : Sound n) {before : List Json}
    (hread : readItems (n + 1) room before cs = .ok (v, rest)) :
    ∃ vs, v = .arr (before.reverse ++ vs) ∧ Items cs vs rest := by
  unfold readItems at hread
  split at hread
  next => cases hread
  next item rest₁ hvalue =>
    split at hread
    next more hcomma =>
      obtain ⟨vs, rfl, hitems⟩ := h.items hread
      refine ⟨item :: vs, ?_, .more (h.value hvalue) (spaces_of_skipSpace hcomma)
        (spaces_skipSpace _) hitems⟩
      rw [List.reverse_cons, List.append_assoc, List.singleton_append]
    next more hclosed =>
      cases hread
      refine ⟨[item], ?_, .last (h.value hvalue) (spaces_of_skipSpace hclosed)⟩
      rw [List.reverse_cons]
    next => cases hread

theorem Sound.members_succ (h : Sound n) {before : List (CodePoints × Json)}
    (hread : readMembers (n + 1) room before cs = .ok (v, rest)) :
    ∃ ms, v = .obj (membersOf before ms) ∧ Members cs ms rest := by
  unfold readMembers at hread
  split at hread
  next more =>
    split at hread
    next => cases hread
    next name rest₁ hstring =>
      obtain ⟨us, rfl, hunits⟩ := units_of_readString hstring
      split at hread
      next rest₂ hcolon =>
        split at hread
        next => cases hread
        next item rest₃ hvalue =>
          split at hread
          next rest₄ hcomma =>
            obtain ⟨ms, rfl, hmembers⟩ := h.members hread
            exact ⟨_, rfl, .more hunits (spaces_of_skipSpace hcolon) (spaces_skipSpace _)
              (h.value hvalue) (spaces_of_skipSpace hcomma) (spaces_skipSpace _) hmembers⟩
          next rest₄ hclosed =>
            cases hread
            exact ⟨_, rfl, .last hunits (spaces_of_skipSpace hcolon) (spaces_skipSpace _)
              (h.value hvalue) (spaces_of_skipSpace hclosed)⟩
          next => cases hread
      next => cases hread
  next => cases hread

/-- Whatever is read is there. -/
theorem sound (n : Nat) : Sound n := by
  induction n with
  | zero =>
    constructor
    case value =>
      intro room cs v rest h
      cases h
    case items =>
      intro room before cs v rest h
      cases h
    case members =>
      intro room before cs v rest h
      cases h
  | succ n ih => exact ⟨ih.value_succ, ih.items_succ, ih.members_succ⟩

end

/-- A text that is read writes the value. -/
theorem writes_of_ofCodePoints {cs : CodePoints} {v : Json} (h : ofCodePoints cs = .ok v) :
    Writes cs v := by
  unfold ofCodePoints at h
  split at h
  next => cases h
  next v' rest hvalue =>
    split at h
    next hend =>
      cases h
      exact ⟨_, rest, spaces_skipSpace cs, (sound _).value hvalue,
        spaces_of_skipSpace (List.isEmpty_iff.1 hend)⟩
    next => cases h

/-! ## What is there is shorter than the text -/

/-- What follows is the end of a text, and not the whole of it. -/
def Takes (cs rest : CodePoints) : Prop :=
  rest <:+ cs ∧ rest.length < cs.length

section
variable {cs cs₁ rest : CodePoints}

theorem takes_cons {c : CodePoint} (h : rest <:+ cs) : Takes (c :: cs) rest :=
  ⟨h.trans (List.suffix_cons c cs), Nat.lt_succ_of_le h.length_le⟩

theorem Takes.suffix (h : Takes cs cs₁) (k : rest <:+ cs₁) : Takes cs rest :=
  ⟨k.trans h.1, Nat.lt_of_le_of_lt k.length_le h.2⟩

theorem Takes.after (h : Takes cs₁ rest) (k : cs₁ <:+ cs) : Takes cs rest :=
  ⟨h.1.trans k, Nat.lt_of_lt_of_le h.2 k.length_le⟩

theorem Grammar.Spaces.suffix (h : Spaces cs rest) : rest <:+ cs := by
  induction h with
  | none => exact List.suffix_refl _
  | more _ _ ih => exact ih.trans (List.suffix_cons _ _)

theorem Grammar.Units.suffix {us : List (CodePoint × Bool)} (h : Units cs us rest) :
    rest <:+ cs := by
  induction h with
  | close => exact List.suffix_cons _ _
  | plain _ _ _ _ ih => exact ih.trans (List.suffix_cons _ _)
  | letter _ _ ih => exact ih.trans ⟨[_, _], rfl⟩
  | number _ _ ih => exact ih.trans ⟨[_, _, _, _, _, _], rfl⟩

theorem Grammar.Digits.takes {ds : List Nat} (h : Digits cs ds rest) : Takes cs rest := by
  induction h with
  | one => exact takes_cons (List.suffix_refl _)
  | more _ _ ih => exact takes_cons ih.1

theorem Grammar.Number.takes {v : Json} (h : Number cs v rest) : Takes cs rest := by
  have hminus {cs cs₁ : CodePoints} {negative : Bool} (h : Minus cs negative cs₁) : cs₁ <:+ cs := by
    cases h with
    | absent => exact List.suffix_refl _
    | present => exact List.suffix_cons _ _
  have hsign {cs cs₁ : CodePoints} {negative : Bool} (h : Sign cs negative cs₁) : cs₁ <:+ cs := by
    cases h with
    | minus h => exact hminus h
    | plus => exact List.suffix_cons _ _
  have hwhole {cs cs₁ : CodePoints} {ds : List Nat} (h : Whole cs ds cs₁) : Takes cs cs₁ := by
    cases h with
    | zero => exact takes_cons (List.suffix_refl _)
    | digits _ hdigits => exact hdigits.takes
  have hpart {cs cs₁ : CodePoints} {ds : List Nat} (h : Fraction cs ds cs₁) : cs₁ <:+ cs := by
    cases h with
    | absent => exact List.suffix_refl _
    | present hdigits => exact hdigits.takes.1.trans (List.suffix_cons _ _)
  have hpower {cs cs₁ : CodePoints} {power : Option Int} (h : Exponent cs power cs₁) :
      cs₁ <:+ cs := by
    cases h with
    | absent => exact List.suffix_refl _
    | present _ h hdigits =>
      exact (hdigits.takes.1.trans (hsign h)).trans (List.suffix_cons _ _)
  cases h with
  | of hm hw hf he => exact (((hwhole hw).suffix (hpart hf)).suffix (hpower he)).after (hminus hm)

end

mutual

/-- A value takes something of a text. -/
theorem Grammar.Value.takes {cs rest : CodePoints} {v : Json} : Value cs v rest → Takes cs rest
  | .word h => by
    obtain ⟨c, more, rfl, -⟩ := word_begins h
    exact takes_cons (List.suffix_append _ _)
  | .number h => h.takes
  | .string h => takes_cons h.suffix
  | .noItems h => takes_cons ((List.suffix_cons _ _).trans h.suffix)
  | .items h hitems => takes_cons (hitems.takes.1.trans h.suffix)
  | .noMembers h => takes_cons ((List.suffix_cons _ _).trans h.suffix)
  | .members h hmembers => takes_cons (hmembers.takes.1.trans h.suffix)

/-- Items take up some of a text. -/
theorem Grammar.Items.takes {cs rest : CodePoints} {vs : List Json} :
    Items cs vs rest → Takes cs rest
  | .last h hclosed => h.takes.suffix ((List.suffix_cons _ _).trans hclosed.suffix)
  | .more h hcomma hspaces hitems =>
    h.takes.suffix ((hitems.takes.1.trans hspaces.suffix).trans
      ((List.suffix_cons _ _).trans hcomma.suffix))

/-- Members take up some of a text. -/
theorem Grammar.Members.takes {cs rest : CodePoints} {ms : List (CodePoints × Json)} :
    Members cs ms rest → Takes cs rest
  | .last hname hcolon hspaces h hclosed =>
    takes_cons <| (List.suffix_cons _ _).trans <| hclosed.suffix.trans <| h.takes.1.trans <|
      hspaces.suffix.trans <| (List.suffix_cons _ _).trans <| hcolon.suffix.trans hname.suffix
  | .more hname hcolon hspaces h hcomma hspaces' hmembers =>
    takes_cons <| hmembers.takes.1.trans <| hspaces'.suffix.trans <|
      (List.suffix_cons _ _).trans <| hcomma.suffix.trans <| h.takes.1.trans <|
      hspaces.suffix.trans <| (List.suffix_cons _ _).trans <| hcolon.suffix.trans hname.suffix

end

/-! ## What is there is read -/

/-- Values, items and members are read with some fuel, if it is enough for the length of the text
and no limit is come to. -/
structure Complete (n : Nat) : Prop where
  value : ∀ room {cs v rest}, Value cs v rest → 2 * cs.length ≤ n → Ends rest →
    Settles (readValue n room cs) v rest
  items : ∀ room before {cs vs rest}, Items cs vs rest → 2 * cs.length < n →
    Settles (readItems n room before cs) (.arr (before.reverse ++ vs)) rest
  members : ∀ room before {cs ms rest}, Members cs ms rest → 2 * cs.length < n →
    Settles (readMembers n room before cs) (.obj (membersOf before ms)) rest

/-- A value may end in front of spaces, where it may end behind them. -/
theorem ends_of_spaces {cs rest : CodePoints} (h : Spaces cs rest) (hrest : Ends rest) :
    Ends cs := by
  cases h with
  | none => exact hrest
  | more hc =>
    intro c' hc'
    cases hc'
    exact .inl hc

theorem ends_cons {c : CodePoint} {cs : CodePoints} (h : c = 0x2C ∨ c = 0x5D ∨ c = 0x7D) :
    Ends (c :: cs) := by
  rintro c' ⟨⟩
  exact .inr h

/-- A word or a number begins with no space, and begins no other value. -/
theorem Grammar.Number.stops {cs rest : CodePoints} {v : Json} (h : Number cs v rest) :
    Stops isSpace cs ∧ Stops isMark cs := by
  obtain ⟨c, more, rfl, hc⟩ := h.begins
  rw [stops_cons, stops_cons]
  rcases hc with hdigit | ⟨rfl, -⟩
  · exact plain_of_isDigit hdigit
  · decide

theorem word_stops {w rest : CodePoints} {v : Json} (h : (w, v) ∈ words) :
    Stops isSpace (w ++ rest) ∧ Stops isMark (w ++ rest) := by
  obtain ⟨c, more, rfl, -, hspace, hmark⟩ := word_begins h
  exact ⟨stops_cons.2 hspace, stops_cons.2 hmark⟩

/-- No value begins with a space, or with the bracket that closes an array. -/
theorem Grammar.Value.begins {cs rest : CodePoints} {v : Json} (h : Value cs v rest) :
    Stops isSpace cs ∧ cs.head? ≠ some 0x5D := by
  have hplain {cs : CodePoints} (h : Stops isMark cs) :
      cs.head? ≠ some 0x5D := fun hhead => by cases h _ hhead
  cases h with
  | word h => exact (word_stops h).imp_right hplain
  | number h => exact h.stops.imp_right hplain
  | _ => exact ⟨stops_cons.2 rfl, by simp⟩

/-- Items begin neither with a space nor with the bracket that closes an array. -/
theorem Grammar.Items.begins {cs rest : CodePoints} {vs : List Json} (h : Items cs vs rest) :
    Stops isSpace cs ∧ cs.head? ≠ some 0x5D := by
  cases h with
  | last h | more h => exact h.begins

theorem Grammar.Members.begins {cs rest : CodePoints} {ms : List (CodePoints × Json)}
    (h : Members cs ms rest) : Stops isSpace cs ∧ cs.head? ≠ some 0x7D := by
  cases h with
  | last h | more h => exact ⟨stops_cons.2 rfl, by simp⟩

section
variable {n room : Nat} {cs rest : CodePoints} {v : Json}

/-- No array begins where no depth is left. -/
@[simp] theorem readValue_array_zero :
    readValue (n + 1) 0 (0x5B :: cs) = .error (.tooDeep .array) :=
  readValue.eq_3 ..

/-- An array without items is read as one. -/
theorem readValue_array_empty (hskip : skipSpace cs = 0x5D :: rest) :
    readValue (n + 1) (room + 1) (0x5B :: cs) = .ok (.arr [], rest) :=
  readValue.eq_4 _ _ _ _ hskip

/-- An array that is not closed at once is read by its items. -/
theorem readValue_array (hskip : skipSpace cs = rest) (hopen : rest.head? ≠ some 0x5D) :
    readValue (n + 1) (room + 1) (0x5B :: cs) = readItems n room [] rest := by
  subst hskip
  exact readValue.eq_5 _ _ _ fun _ heq => hopen (by rw [heq]; rfl)

/-- No object begins where no depth is left. -/
@[simp] theorem readValue_object_zero :
    readValue (n + 1) 0 (0x7B :: cs) = .error (.tooDeep .object) :=
  readValue.eq_6 ..

/-- An object without members is read as one. -/
theorem readValue_object_empty (hskip : skipSpace cs = 0x7D :: rest) :
    readValue (n + 1) (room + 1) (0x7B :: cs) = .ok (.obj [], rest) :=
  readValue.eq_7 _ _ _ _ hskip

/-- An object that is not closed at once is read by its members. -/
theorem readValue_object (hskip : skipSpace cs = rest) (hopen : rest.head? ≠ some 0x7D) :
    readValue (n + 1) (room + 1) (0x7B :: cs) = readMembers n room [] rest := by
  subst hskip
  exact readValue.eq_8 _ _ _ fun _ heq => hopen (by rw [heq]; rfl)

theorem Complete.value_succ (h : Complete n) (hv : Value cs v rest) (hn : 2 * cs.length ≤ n + 1)
    (hrest : Ends rest) : Settles (readValue (n + 1) room cs) v rest := by
  cases hv with
  | word hword =>
    rw [readValue_plain (word_stops hword).2, readPlain_word hword]
    exact .inl rfl
  | number hnumber =>
    rw [readValue_plain hnumber.stops.2]
    exact readPlain_number hnumber hrest
  | string hunits =>
    rw [readValue, readString, readUnits_eq hunits]
    exact .inl rfl
  | noItems hspaces =>
    cases room with
    | zero => exact .inr ⟨_, readValue_array_zero, trivial⟩
    | succ room => exact .inl (readValue_array_empty (skipSpace_eq hspaces (stops_cons.2 rfl)))
  | items hspaces hitems =>
    obtain ⟨hstops, hopen⟩ := hitems.begins
    have hlength := hspaces.suffix.length_le
    cases room with
    | zero => exact .inr ⟨_, readValue_array_zero, trivial⟩
    | succ room =>
      rw [readValue_array (skipSpace_eq hspaces hstops) hopen]
      exact h.items room [] hitems (by rw [List.length_cons] at hn; omega)
  | noMembers hspaces =>
    cases room with
    | zero => exact .inr ⟨_, readValue_object_zero, trivial⟩
    | succ room => exact .inl (readValue_object_empty (skipSpace_eq hspaces (stops_cons.2 rfl)))
  | members hspaces hmembers =>
    obtain ⟨hstops, hopen⟩ := hmembers.begins
    have hlength := hspaces.suffix.length_le
    cases room with
    | zero => exact .inr ⟨_, readValue_object_zero, trivial⟩
    | succ room =>
      rw [readValue_object (skipSpace_eq hspaces hstops) hopen]
      exact h.members room [] hmembers (by rw [List.length_cons] at hn; omega)

/-- An item behind which a comma stands. -/
theorem readItems_more {before : List Json} {cs₁ cs₂ : CodePoints}
    (hread : readValue n room cs = .ok (v, cs₁)) (hskip : skipSpace cs₁ = 0x2C :: cs₂) :
    readItems (n + 1) room before cs = readItems n room (v :: before) (skipSpace cs₂) := by
  rw [readItems, hread]
  dsimp only
  rw [hskip]
  rfl

/-- An item behind which the array ends. -/
theorem readItems_last {before : List Json} {cs₁ : CodePoints}
    (hread : readValue n room cs = .ok (v, cs₁)) (hskip : skipSpace cs₁ = 0x5D :: rest) :
    readItems (n + 1) room before cs = .ok (.arr (v :: before).reverse, rest) := by
  rw [readItems, hread]
  dsimp only
  rw [hskip]
  rfl

theorem Complete.items_succ (h : Complete n) {before vs : List Json} (hitems : Items cs vs rest)
    (hn : 2 * cs.length < n + 1) :
    Settles (readItems (n + 1) room before cs) (.arr (before.reverse ++ vs)) rest := by
  cases hitems with
  | @last _ _ _ item hvalue hclosed =>
    have hends := ends_of_spaces hclosed (ends_cons (by simp))
    have hskip := skipSpace_eq hclosed (stops_cons.2 rfl)
    rcases h.value room hvalue (by omega) hends with hread | ⟨e, hread, he⟩
    · left
      rw [readItems_last hread hskip, List.reverse_cons]
    · right
      rw [readItems, hread]
      exact ⟨e, rfl, he⟩
  | @more _ cs₁ cs₂ cs₃ _ item vs hvalue hcomma hspaces hmore =>
    have hends := ends_of_spaces hcomma (ends_cons (by simp))
    have hskip := skipSpace_eq hcomma (stops_cons.2 rfl)
    have htakes := hvalue.takes.2
    have hfewer := ((takes_cons hspaces.suffix).after hcomma.suffix).2
    rcases h.value room hvalue (by omega) hends with hread | ⟨e, hread, he⟩
    · have hsettles := h.items room (item :: before) hmore (by omega)
      rw [List.reverse_cons, List.append_assoc, List.singleton_append] at hsettles
      rwa [readItems_more hread hskip, skipSpace_eq hspaces hmore.begins.1]
    · right
      rw [readItems, hread]
      exact ⟨e, rfl, he⟩

/-- A member behind which a comma stands. -/
theorem readMembers_more {before : List (CodePoints × Json)} {name cs₁ cs₂ cs₃ cs₄ : CodePoints}
    (hname : readString cs = some (name, cs₁)) (hcolon : skipSpace cs₁ = 0x3A :: cs₂)
    (hread : readValue n room (skipSpace cs₂) = .ok (v, cs₃))
    (hskip : skipSpace cs₃ = 0x2C :: cs₄) :
    readMembers (n + 1) room before (0x22 :: cs) =
      readMembers n room (putMember name v before) (skipSpace cs₄) := by
  simp only [readMembers, hname, hcolon, hread, hskip]

/-- A member behind which the object ends. -/
theorem readMembers_last {before : List (CodePoints × Json)} {name cs₁ cs₂ cs₃ : CodePoints}
    (hname : readString cs = some (name, cs₁)) (hcolon : skipSpace cs₁ = 0x3A :: cs₂)
    (hread : readValue n room (skipSpace cs₂) = .ok (v, cs₃))
    (hskip : skipSpace cs₃ = 0x7D :: rest) :
    readMembers (n + 1) room before (0x22 :: cs) = .ok (.obj (putMember name v before), rest) := by
  simp only [readMembers, hname, hcolon, hread, hskip]

/-- A member whose value is not read. -/
theorem readMembers_error {before : List (CodePoints × Json)} {name cs₁ cs₂ : CodePoints}
    {e : Fault}
    (hname : readString cs = some (name, cs₁)) (hcolon : skipSpace cs₁ = 0x3A :: cs₂)
    (hread : readValue n room (skipSpace cs₂) = .error e) :
    readMembers (n + 1) room before (0x22 :: cs) = .error e := by
  simp only [readMembers, hname, hcolon, hread]

/-- A value behind a name takes less of a text than both. -/
theorem length_le_of_name {cs₁ cs₂ cs₃ : CodePoints} {us : List (CodePoint × Bool)}
    (hname : Units cs us cs₁) (hcolon : Spaces cs₁ (0x3A :: cs₂)) (hspaces : Spaces cs₂ cs₃) :
    cs₃.length ≤ cs.length := by
  have hmoves := (hspaces.suffix.trans (List.suffix_cons _ _)).trans hcolon.suffix
  exact (hmoves.trans hname.suffix).length_le

theorem readString_eq {us : List (CodePoint × Bool)} (h : Units cs us rest) :
    readString cs = some (joinNumbered us, rest) := by
  rw [readString, readUnits_eq h]
  rfl

theorem Complete.members_succ (h : Complete n) {before ms : List (CodePoints × Json)}
    (hmembers : Members cs ms rest) (hn : 2 * cs.length < n + 1) :
    Settles (readMembers (n + 1) room before cs) (.obj (membersOf before ms)) rest := by
  cases hmembers with
  | last hname hcolon hspaces hvalue hclosed =>
    have hlength := length_le_of_name hname hcolon hspaces
    have hends := ends_of_spaces hclosed (ends_cons (by simp))
    have hread := h.value room hvalue (by rw [List.length_cons] at hn; omega) hends
    rw [← skipSpace_eq hspaces hvalue.begins.1] at hread
    have hskip := skipSpace_eq hcolon (stops_cons.2 rfl)
    rcases hread with hread | ⟨e, hread, he⟩
    · left
      exact readMembers_last (readString_eq hname) hskip hread
        (skipSpace_eq hclosed (stops_cons.2 rfl))
    · exact .inr ⟨e, readMembers_error (readString_eq hname) hskip hread, he⟩
  | more hname hcolon hspaces hvalue hcomma hspaces' hmore =>
    have hlength := length_le_of_name hname hcolon hspaces
    have hends := ends_of_spaces hcomma (ends_cons (by simp))
    have hread := h.value room hvalue (by rw [List.length_cons] at hn; omega) hends
    rw [← skipSpace_eq hspaces hvalue.begins.1] at hread
    have hskip := skipSpace_eq hcolon (stops_cons.2 rfl)
    rcases hread with hread | ⟨e, hread, he⟩
    · have htakes := hvalue.takes.2
      have hfewer := ((takes_cons hspaces'.suffix).after hcomma.suffix).2
      rw [readMembers_more (readString_eq hname) hskip hread
        (skipSpace_eq hcomma (stops_cons.2 rfl)), skipSpace_eq hspaces' hmore.begins.1]
      exact h.members room _ hmore (by rw [List.length_cons] at hn; omega)
    · exact .inr ⟨e, readMembers_error (readString_eq hname) hskip hread, he⟩

/-- Whatever is there is read. -/
theorem complete (n : Nat) : Complete n := by
  induction n with
  | zero =>
    constructor
    case value =>
      intro room cs v rest h hn
      have hsome := h.takes.2
      omega
    case items =>
      intro room before cs vs rest h hn
      omega
    case members =>
      intro room before cs ms rest h hn
      omega
  | succ n ih =>
    exact ⟨fun _ => ih.value_succ, fun _ _ => ih.items_succ, fun _ _ => ih.members_succ⟩

end

/-- A text that writes a value is read, if no limit is come to. -/
theorem ofCodePoints_of_writes {cs : CodePoints} {v : Json} (h : Writes cs v) :
    ofCodePoints cs = .ok v ∨ ∃ e, ofCodePoints cs = .error e ∧ e.IsLimit := by
  obtain ⟨cs₁, cs₂, hspaces, hvalue, hend⟩ := h
  have hlength := hspaces.suffix.length_le
  have hends : Ends cs₂ := ends_of_spaces hend fun c hc => by cases hc
  unfold ofCodePoints
  rw [skipSpace_eq hspaces hvalue.begins.1]
  rcases (complete (2 * cs.length + 2)).value maxDepth hvalue (by omega) hends with
    hread | ⟨e, hread, he⟩
  · left
    rw [hread]
    dsimp only
    rw [skipSpace_eq hend (stops_nil _)]
    rfl
  · right
    rw [hread]
    exact ⟨e, rfl, he⟩

end BlockingQuery.Json
