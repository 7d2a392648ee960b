import BlockingQuery.Proofs.Json.Reader

/-!
# Where the reader of JSON comes to a limit

The reader takes integers of no more than so many digits, and arrays and objects that stand in one
another no deeper than so. `Oversized` texts are those that go on as JSON up to an integer that is
too long, or an array or object that is too deep; what stands behind it does not matter. The reader
comes to a limit in just these (`oversized_iff`), as is shown by induction on the fuel once more.
Any other text is read just if it writes a value (`ofCodePoints_eq_ok_iff`), and `tells_ofBytes`
says what each outcome of reading tells of the bytes.
-/

namespace BlockingQuery.Json

open Text Grammar

namespace Grammar

/-- Neither a digit nor a fraction or an exponent stands here. -/
structure EndsInteger (cs : CodePoints) : Prop where
  digit : Stops isDigit cs
  fraction : ∀ {ds rest}, Fraction cs ds rest → ds = []
  exponent : ∀ {power rest}, Exponent cs power rest → power = none

/-- An integer that has too many digits. -/
inductive TooLong : CodePoints → Prop
  | of {cs cs₁ rest : CodePoints} {negative : Bool} {whole : List Nat} :
    Minus cs negative cs₁ → Whole cs₁ whole rest → EndsInteger rest →
    Numeral.digitLimit < whole.length → TooLong cs

mutual

/-- A value that, as far as it goes, is beyond a limit where so many containers may open. -/
inductive Beyond : Nat → CodePoints → Prop
  | integer {room : Nat} {cs : CodePoints} : TooLong cs → Beyond room cs
  | array {cs : CodePoints} : Beyond 0 (0x5B :: cs)
  | object {cs : CodePoints} : Beyond 0 (0x7B :: cs)
  | items {room : Nat} {cs cs₁ : CodePoints} :
    Spaces cs cs₁ → ItemsBeyond room cs₁ → Beyond (room + 1) (0x5B :: cs)
  | members {room : Nat} {cs cs₁ : CodePoints} :
    Spaces cs cs₁ → MembersBeyond room cs₁ → Beyond (room + 1) (0x7B :: cs)

/-- Items up to one that is beyond a limit. -/
inductive ItemsBeyond : Nat → CodePoints → Prop
  | here {room : Nat} {cs : CodePoints} : Beyond room cs → ItemsBeyond room cs
  | later {room : Nat} {cs cs₁ cs₂ cs₃ : CodePoints} {v : Json} :
    Value cs v cs₁ → Spaces cs₁ (0x2C :: cs₂) → Spaces cs₂ cs₃ → ItemsBeyond room cs₃ →
    ItemsBeyond room cs

/-- Members up to one that is beyond a limit. -/
inductive MembersBeyond : Nat → CodePoints → Prop
  | here {room : Nat} {cs cs₁ cs₂ cs₃ : CodePoints} {us : List (CodePoint × Bool)} :
    Units cs us cs₁ → Spaces cs₁ (0x3A :: cs₂) → Spaces cs₂ cs₃ → Beyond room cs₃ →
    MembersBeyond room (0x22 :: cs)
  | later {room : Nat} {cs cs₁ cs₂ cs₃ cs₄ cs₅ cs₆ : CodePoints} {us : List (CodePoint × Bool)}
    {v : Json} :
    Units cs us cs₁ → Spaces cs₁ (0x3A :: cs₂) → Spaces cs₂ cs₃ → Value cs₃ v cs₄ →
    Spaces cs₄ (0x2C :: cs₅) → Spaces cs₅ cs₆ → MembersBeyond room cs₆ →
    MembersBeyond room (0x22 :: cs)

end

end Grammar

/-- A text that, as far as it goes, is beyond a limit. -/
def Oversized (cs : CodePoints) : Prop :=
  ∃ cs₁, Spaces cs cs₁ ∧ Beyond maxDepth cs₁

/-- What a fault of reading tells, if there is just one thing that it may be put down to beside bad
grammar. -/
def Fault.Tells (e : Fault) (p : Prop) : Prop :=
  e = .malformed ∨ (e.IsLimit ∧ p)

theorem Fault.Tells.imp {e : Fault} {p q : Prop} (h : e.Tells p) (hpq : p → q) : e.Tells q :=
  Or.imp_right (And.imp_right hpq) h

/-! ## Integers -/

/-- What the reader takes for an integer ends where it stops. -/
theorem endsInteger_of_read {cs cs₁ rest : CodePoints} (hdigit : Stops isDigit cs)
    (hpart : readFraction cs = ([], cs₁)) (hpower : readExponent cs₁ = (none, rest)) :
    EndsInteger cs := by
  have hsame : cs₁ = cs := by
    have hfraction := fraction_readFraction cs
    rw [hpart] at hfraction
    cases hfraction with
    | absent => rfl
    | present hdigits => exact absurd rfl hdigits.ne_nil
  subst hsame
  refine ⟨hdigit, fun h => ?_, fun h => ?_⟩
  · cases h with
    | absent => rfl
    | present hdigits =>
      rw [readFraction_present hdigits] at hpart
      exact absurd (congrArg Prod.fst hpart) (readDigits_ne_nil hdigits)
  · cases h with
    | absent => rfl
    | present he hsign hdigits =>
      rw [readExponent_present he hsign hdigits] at hpower
      cases hpower

/-- An integer with too many digits is not read. -/
theorem readPlain_tooLong {cs : CodePoints} (h : TooLong cs) : Overruns (readPlain cs) := by
  cases h with
  | @of _ rest _ _ hminus hwhole hends hlong =>
    have hfraction := fraction_readFraction rest
    rcases hpart : readFraction rest with ⟨part, rest₁⟩
    rw [hpart] at hfraction
    cases hends.fraction hfraction
    cases hfraction with
    | present hdigits => exact absurd rfl hdigits.ne_nil
    | absent =>
      have hexponent := exponent_readExponent rest₁
      rcases hpower : readExponent rest₁ with ⟨power, rest₂⟩
      rw [hpower] at hexponent
      cases hends.exponent hexponent
      rw [readPlain_eq hminus hwhole, readNumber_eq _ hwhole hends.digit,
        readTail_eq _ _ hpart hpower, if_pos ⟨rfl, hlong⟩]
      exact ⟨_, rfl, trivial⟩

/-- No other number is beyond a limit. -/
theorem tells_of_readNumber {negative : Bool} {cs cs₁ : CodePoints} {e : Fault}
    (hminus : Minus cs negative cs₁) (h : readNumber negative cs₁ = .error e) :
    e.Tells (TooLong cs) := by
  by_cases hzero : cs₁.head? = some 0x30
  · -- Digits may follow a zero, so what stands behind it need not end an integer. But one digit is
    -- never too many.
    obtain ⟨more, rfl⟩ := List.head?_eq_some_iff.1 hzero
    rcases hpart : readFraction more with ⟨part, rest₁⟩
    rcases hpower : readExponent rest₁ with ⟨power, rest₂⟩
    rw [readNumber_zero, readTail_eq negative [0] hpart hpower,
      if_neg fun h => absurd h.2 (by decide)] at h
    cases h
  · rw [readNumber_digits negative hzero] at h
    rcases digits_readDigits cs₁ with hnone | hdigits
    · rw [hnone] at h
      cases h
      exact .inl rfl
    · have hstops : Stops isDigit (readDigits cs₁).2 := stops_dropWhile _ _
      rcases hpart : readFraction (readDigits cs₁).2 with ⟨part, rest₁⟩
      rcases hpower : readExponent rest₁ with ⟨power, rest₂⟩
      rw [if_neg (by simpa using hdigits.ne_nil), readTail_eq negative _ hpart hpower] at h
      split at h
      next hlong =>
        obtain ⟨hint, hlong⟩ := hlong
        simp only [Bool.and_eq_true, List.isEmpty_iff, Option.isNone_iff_eq_none] at hint
        obtain ⟨rfl, rfl⟩ := hint
        cases h
        exact .inr ⟨trivial,
          .of hminus (.digits hzero hdigits) (endsInteger_of_read hstops hpart hpower) hlong⟩
      next => cases h

/-- No word is. -/
theorem tells_of_readPlain {cs : CodePoints} {e : Fault} (h : readPlain cs = .error e) :
    e.Tells (TooLong cs) := by
  unfold readPlain at h
  split at h
  next => cases h
  next =>
    split at h
    next body => exact tells_of_readNumber .present h
    next => exact tells_of_readNumber .absent h

/-! ## Where they begin -/

/-- An integer with too many digits is a number. -/
theorem Grammar.TooLong.number {cs : CodePoints} (h : TooLong cs) :
    ∃ v rest, Number cs v rest := by
  cases h with
  | of hminus hwhole => exact ⟨_, _, .of hminus hwhole .absent .absent⟩

theorem Grammar.Beyond.begins {room : Nat} {cs : CodePoints} (h : Beyond room cs) :
    Stops isSpace cs ∧ cs.head? ≠ some 0x5D := by
  cases h with
  | integer h =>
    obtain ⟨v, rest, hnumber⟩ := h.number
    exact (Value.number hnumber).begins
  | _ => exact ⟨stops_cons.2 rfl, by simp⟩

theorem Grammar.ItemsBeyond.begins {room : Nat} {cs : CodePoints} (h : ItemsBeyond room cs) :
    Stops isSpace cs ∧ cs.head? ≠ some 0x5D := by
  cases h with
  | here h => exact h.begins
  | later h => exact h.begins

theorem Grammar.MembersBeyond.begins {room : Nat} {cs : CodePoints} (h : MembersBeyond room cs) :
    Stops isSpace cs ∧ cs.head? ≠ some 0x7D := by
  cases h with
  | here | later => exact ⟨stops_cons.2 rfl, by simp⟩

/-! ## Limits that are come to are there -/

/-- What the faults of reading with some fuel tell. -/
structure Limited (n : Nat) : Prop where
  value : ∀ {room cs e}, readValue n room cs = .error e → e.Tells (Beyond room cs)
  items : ∀ {room before cs e}, readItems n room before cs = .error e →
    e.Tells (ItemsBeyond room cs)
  members : ∀ {room before cs e}, readMembers n room before cs = .error e →
    e.Tells (MembersBeyond room cs)

section
variable {n room : Nat} {cs : CodePoints} {e : Fault}

theorem Limited.value_succ (h : Limited n) (hread : readValue (n + 1) room cs = .error e) :
    e.Tells (Beyond room cs) := by
  unfold readValue at hread
  split at hread
  next more =>
    split at hread
    next => cases hread
    next =>
      cases hread
      exact .inl rfl
  next more =>
    split at hread
    next =>
      cases hread
      exact .inr ⟨trivial, .array⟩
    next => cases hread
    next => exact (h.items hread).imp (.items (spaces_skipSpace _))
  next more =>
    split at hread
    next =>
      cases hread
      exact .inr ⟨trivial, .object⟩
    next => cases hread
    next => exact (h.members hread).imp (.members (spaces_skipSpace _))
  next => exact (tells_of_readPlain hread).imp .integer

theorem Limited.items_succ (h : Limited n) {before : List Json}
    (hread : readItems (n + 1) room before cs = .error e) : e.Tells (ItemsBeyond room cs) := by
  unfold readItems at hread
  split at hread
  next hvalue =>
    cases hread
    exact (h.value hvalue).imp .here
  next item rest hvalue =>
    split at hread
    next more hcomma =>
      exact (h.items hread).imp
        (.later ((sound n).value hvalue) (spaces_of_skipSpace hcomma) (spaces_skipSpace _))
    next => cases hread
    next =>
      cases hread
      exact .inl rfl

theorem Limited.members_succ (h : Limited n) {before : List (CodePoints × Json)}
    (hread : readMembers (n + 1) room before cs = .error e) : e.Tells (MembersBeyond room cs) := by
  unfold readMembers at hread
  split at hread
  next more =>
    split at hread
    next =>
      cases hread
      exact .inl rfl
    next name rest hstring =>
      obtain ⟨us, -, hunits⟩ := units_of_readString hstring
      split at hread
      next rest₁ hcolon =>
        split at hread
        next hvalue =>
          cases hread
          exact (h.value hvalue).imp
            (.here hunits (spaces_of_skipSpace hcolon) (spaces_skipSpace _))
        next item rest₂ hvalue =>
          split at hread
          next rest₃ hcomma =>
            exact (h.members hread).imp
              (.later hunits (spaces_of_skipSpace hcolon) (spaces_skipSpace _)
                ((sound n).value hvalue) (spaces_of_skipSpace hcomma) (spaces_skipSpace _))
          next => cases hread
          next =>
            cases hread
            exact .inl rfl
      next =>
        cases hread
        exact .inl rfl
  next =>
    cases hread
    exact .inl rfl

/-- Limits that are come to are there. -/
theorem limited (n : Nat) : Limited n := by
  induction n with
  | zero =>
    constructor
    case value =>
      intro room cs e h
      cases h
      exact .inl rfl
    case items =>
      intro room before cs e h
      cases h
      exact .inl rfl
    case members =>
      intro room before cs e h
      cases h
      exact .inl rfl
  | succ n ih => exact ⟨ih.value_succ, ih.items_succ, ih.members_succ⟩

end

/-! ## Limits that are there are come to -/

/-- Limits are come to with some fuel, if it is enough for the length of the text. -/
structure Limiting (n : Nat) : Prop where
  value : ∀ {room cs}, Beyond room cs → 2 * cs.length ≤ n → Overruns (readValue n room cs)
  items : ∀ {room} before {cs}, ItemsBeyond room cs → 2 * cs.length < n →
    Overruns (readItems n room before cs)
  members : ∀ {room} before {cs}, MembersBeyond room cs → 2 * cs.length < n →
    Overruns (readMembers n room before cs)

section
variable {n room : Nat} {cs : CodePoints}

theorem Limiting.value_succ (h : Limiting n) (hbeyond : Beyond room cs)
    (hn : 2 * cs.length ≤ n + 1) : Overruns (readValue (n + 1) room cs) := by
  cases hbeyond with
  | integer hlong =>
    obtain ⟨v, rest, hnumber⟩ := hlong.number
    rw [readValue_plain hnumber.stops.2]
    exact readPlain_tooLong hlong
  | array => exact ⟨_, readValue_array_zero, trivial⟩
  | object => exact ⟨_, readValue_object_zero, trivial⟩
  | items hspaces hitems =>
    obtain ⟨hstops, hopen⟩ := hitems.begins
    have hlength := hspaces.suffix.length_le
    rw [readValue_array (skipSpace_eq hspaces hstops) hopen]
    exact h.items [] hitems (by rw [List.length_cons] at hn; omega)
  | members hspaces hmembers =>
    obtain ⟨hstops, hopen⟩ := hmembers.begins
    have hlength := hspaces.suffix.length_le
    rw [readValue_object (skipSpace_eq hspaces hstops) hopen]
    exact h.members [] hmembers (by rw [List.length_cons] at hn; omega)

theorem Limiting.items_succ (h : Limiting n) (before : List Json) (hbeyond : ItemsBeyond room cs)
    (hn : 2 * cs.length < n + 1) : Overruns (readItems (n + 1) room before cs) := by
  cases hbeyond with
  | here hvalue =>
    obtain ⟨e, hread, he⟩ := h.value hvalue (by omega)
    rw [readItems, hread]
    exact ⟨e, rfl, he⟩
  | @later _ _ cs₁ cs₂ cs₃ item hvalue hcomma hspaces hmore =>
    have hends := ends_of_spaces hcomma (ends_cons (by simp))
    have hskip := skipSpace_eq hcomma (stops_cons.2 rfl)
    have htakes := hvalue.takes.2
    have hfewer := ((takes_cons hspaces.suffix).after hcomma.suffix).2
    rcases (complete n).value room hvalue (by omega) hends with hread | ⟨e, hread, he⟩
    · rw [readItems_more hread hskip, skipSpace_eq hspaces hmore.begins.1]
      exact h.items (item :: before) hmore (by omega)
    · rw [readItems, hread]
      exact ⟨e, rfl, he⟩

theorem Limiting.members_succ (h : Limiting n) (before : List (CodePoints × Json))
    (hbeyond : MembersBeyond room cs) (hn : 2 * cs.length < n + 1) :
    Overruns (readMembers (n + 1) room before cs) := by
  cases hbeyond with
  | here hname hcolon hspaces hvalue =>
    have hlength := length_le_of_name hname hcolon hspaces
    have hskip := skipSpace_eq hcolon (stops_cons.2 rfl)
    have hread := h.value hvalue (by rw [List.length_cons] at hn; omega)
    rw [← skipSpace_eq hspaces hvalue.begins.1] at hread
    obtain ⟨e, hread, he⟩ := hread
    exact ⟨e, readMembers_error (readString_eq hname) hskip hread, he⟩
  | later hname hcolon hspaces hvalue hcomma hspaces' hmore =>
    have hlength := length_le_of_name hname hcolon hspaces
    have hends := ends_of_spaces hcomma (ends_cons (by simp))
    have hread := (complete n).value room hvalue (by rw [List.length_cons] at hn; omega) hends
    rw [← skipSpace_eq hspaces hvalue.begins.1] at hread
    have hskip := skipSpace_eq hcolon (stops_cons.2 rfl)
    rcases hread with hread | ⟨e, hread, he⟩
    · have htakes := hvalue.takes.2
      have hfewer := ((takes_cons hspaces'.suffix).after hcomma.suffix).2
      rw [readMembers_more (readString_eq hname) hskip hread
        (skipSpace_eq hcomma (stops_cons.2 rfl)), skipSpace_eq hspaces' hmore.begins.1]
      exact h.members _ hmore (by rw [List.length_cons] at hn; omega)
    · exact ⟨e, readMembers_error (readString_eq hname) hskip hread, he⟩

/-- Limits that are there are come to. -/
theorem limiting (n : Nat) : Limiting n := by
  induction n with
  | zero =>
    constructor
    case value =>
      intro room cs h hn
      cases cs with
      | nil =>
        cases h with
        | integer hlong =>
          obtain ⟨v, rest, hnumber⟩ := hlong.number
          exact absurd hnumber.takes.2 (Nat.not_lt_zero _)
      | cons c cs => simp at hn
    case items =>
      intro room before cs h hn
      omega
    case members =>
      intro room before cs h hn
      omega
  | succ n ih =>
    exact ⟨ih.value_succ, fun before => ih.items_succ before, fun before => ih.members_succ before⟩

end

/-! ## Texts -/

/-- What a fault of reading a text tells. -/
theorem tells_of_ofCodePoints {cs : CodePoints} {e : Fault} (h : ofCodePoints cs = .error e) :
    e.Tells (Oversized cs) := by
  unfold ofCodePoints at h
  split at h
  next hread =>
    cases h
    exact ((limited _).value hread).imp fun hbeyond => ⟨_, spaces_skipSpace cs, hbeyond⟩
  next =>
    split at h
    next => cases h
    next =>
      cases h
      exact .inl rfl

/-- The reader comes to a limit in just the texts that are beyond one. -/
theorem oversized_iff {cs : CodePoints} :
    Oversized cs ↔ ∃ e, ofCodePoints cs = .error e ∧ e.IsLimit := by
  constructor
  · rintro ⟨cs₁, hspaces, hbeyond⟩
    have hlength := hspaces.suffix.length_le
    obtain ⟨e, hread, he⟩ := (limiting (2 * cs.length + 2)).value hbeyond (by omega)
    refine ⟨e, ?_, he⟩
    unfold ofCodePoints
    rw [skipSpace_eq hspaces hbeyond.begins.1, hread]
  · rintro ⟨e, hread, he⟩
    rcases tells_of_ofCodePoints hread with rfl | ⟨-, hover⟩
    · cases he
    · exact hover

/-- Any text but those is read if and only if it writes a value. -/
theorem ofCodePoints_eq_ok_iff {cs : CodePoints} {v : Json} (h : ¬Oversized cs) :
    ofCodePoints cs = .ok v ↔ Writes cs v := by
  constructor
  · exact writes_of_ofCodePoints
  · intro hwrites
    exact (ofCodePoints_of_writes hwrites).resolve_right fun hlimit => h (oversized_iff.2 hlimit)

/-! ## Bytes -/

/-- What the outcome of reading tells of the bytes. -/
def Tells (bs : List UInt8) : Except Fault Json → Prop
  | .ok v => Encodes bs v ∧ ∃ cs, text? bs = some cs ∧ ¬Oversized cs
  | .error .undecodable => text? bs = none
  | .error .malformed => (∀ v, ¬Encodes bs v) ∧ ∃ cs, text? bs = some cs ∧ ¬Oversized cs
  | .error (.tooLong _) | .error (.tooDeep _) => ∃ cs, text? bs = some cs ∧ Oversized cs

/-- Bytes that are no text are not read. -/
theorem ofBytes_of_text?_eq_none {bs : List UInt8} (h : text? bs = none) :
    ofBytes bs = .error .undecodable := by
  have hdecode : (detect bs).1.decode? (detect bs).2 = none := h
  simp only [ofBytes, hdecode]

/-- Bytes that are a text are read as the text that they are. -/
theorem ofBytes_of_text? {bs : List UInt8} {cs : CodePoints} (h : text? bs = some cs) :
    ofBytes bs = ofCodePoints cs := by
  have hdecode : (detect bs).1.decode? (detect bs).2 = some cs := h
  simp only [ofBytes, hdecode]

theorem tells_ofBytes (bs : List UInt8) : Tells bs (ofBytes bs) := by
  cases htext : text? bs with
  | none =>
    rw [ofBytes_of_text?_eq_none htext]
    exact htext
  | some cs =>
    rw [ofBytes_of_text? htext]
    by_cases hover : Oversized cs
    · obtain ⟨e, hread, he⟩ := oversized_iff.1 hover
      rw [hread]
      cases e with
      | tooLong | tooDeep => exact ⟨cs, htext, hover⟩
      | undecodable | malformed => cases he
    · cases hread : ofCodePoints cs with
      | ok v => exact ⟨⟨cs, htext, writes_of_ofCodePoints hread⟩, cs, htext, hover⟩
      | error e =>
        obtain rfl := (tells_of_ofCodePoints hread).resolve_right fun h => hover h.2
        refine ⟨fun v hencodes => ?_, cs, htext, hover⟩
        obtain ⟨cs', htext', hwrites⟩ := hencodes
        cases htext.symm.trans htext'
        cases hread.symm.trans ((ofCodePoints_eq_ok_iff hover).2 hwrites)

/-- Bytes that can be read as a value: they encode it and are not beyond a limit. -/
def Decodes (bs : List UInt8) (v : Json) : Prop :=
  Encodes bs v ∧ ∃ cs, text? bs = some cs ∧ ¬Oversized cs

/-- Bytes are read as a value if and only if they decode to it. -/
theorem ofBytes_eq_ok_iff {bs : List UInt8} {v : Json} : ofBytes bs = .ok v ↔ Decodes bs v := by
  constructor
  · intro hread
    have htells := tells_ofBytes bs
    rwa [hread] at htells
  · rintro ⟨⟨cs, htext, hwrites⟩, cs', htext', hsize⟩
    cases htext.symm.trans htext'
    rw [ofBytes_of_text? htext]
    exact (ofCodePoints_eq_ok_iff hsize).2 hwrites

end BlockingQuery.Json
