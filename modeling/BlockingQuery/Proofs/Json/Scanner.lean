import BlockingQuery.Proofs.Json.Grammar

/-!
# How strings, numbers and words are read

The reader reads spaces, strings, numbers and words as the grammar says, each in two ways. What it
takes is what the grammar has there (`units_of_readUnits`, `number_of_readNumber`,
`value_of_readPlain`), and what the grammar has it takes to the end (`readUnits_eq`,
`readPlain_number`), unless it comes to a limit.

Where a number ends is the grammar's part to say, while the reader takes all that it can. What
follows keeps the two together: where digits are read it begins with none (`Stops`), and behind a
value stands only what may stand there (`Ends`).
-/

namespace BlockingQuery.Json

open Text Grammar

/-- A text does not begin with a code point of a class. -/
def Stops (p : CodePoint → Bool) (cs : CodePoints) : Prop :=
  ∀ c, cs.head? = some c → p c = false

@[simp] theorem stops_nil (p : CodePoint → Bool) : Stops p [] := by
  rintro c ⟨⟩

@[simp] theorem stops_cons {p : CodePoint → Bool} {c : CodePoint} {cs : CodePoints} :
    Stops p (c :: cs) ↔ p c = false := by
  simp [Stops]

/-- A text from the first code point on that is not of a class. -/
theorem stops_dropWhile (p : CodePoint → Bool) (cs : CodePoints) : Stops p (cs.dropWhile p) := by
  induction cs with
  | nil => exact stops_nil p
  | cons c cs ih =>
    by_cases hc : p c = true
    · rwa [List.dropWhile_cons_of_pos hc]
    · rw [List.dropWhile_cons_of_neg hc]
      exact stops_cons.2 (by simpa using hc)

/-! ## Spaces -/

/-- The reader skips spaces. -/
theorem spaces_skipSpace (cs : CodePoints) : Spaces cs (skipSpace cs) := by
  induction cs with
  | nil => exact .none
  | cons c cs ih =>
    by_cases hc : isSpace c = true
    · have hskip : skipSpace (c :: cs) = skipSpace cs := List.dropWhile_cons_of_pos hc
      exact hskip ▸ .more hc ih
    · have hskip : skipSpace (c :: cs) = c :: cs := List.dropWhile_cons_of_neg hc
      rw [hskip]
      exact .none

/-- The reader skips all spaces that there are. -/
theorem skipSpace_eq {cs rest : CodePoints} (h : Spaces cs rest) (hrest : Stops isSpace rest) :
    skipSpace cs = rest := by
  induction h with
  | @none rest =>
    cases rest with
    | nil => rfl
    | cons c rest =>
      refine List.dropWhile_cons_of_neg ?_
      exact Bool.eq_false_iff.1 (stops_cons.1 hrest)
  | more hc _ ih => exact (List.dropWhile_cons_of_pos hc).trans (ih hrest)

/-! ## Strings -/

/-- The reader reads the code points of a string. -/
theorem units_of_readUnits {cs rest : CodePoints} {us : List (CodePoint × Bool)}
    (h : readUnits cs = some (us, rest)) : Units cs us rest := by
  have hunit {c : CodePoint} {numbered : Bool} {us : List (CodePoint × Bool)}
      {read : Option (List (CodePoint × Bool) × CodePoints)}
      (h : readUnit c numbered read = some (us, rest)) :
      ∃ more, read = some (more, rest) ∧ us = (c, numbered) :: more := by
    cases read with
    | none => cases h
    | some found =>
      cases h
      exact ⟨_, rfl, rfl⟩
  fun_induction readUnits cs generalizing us with
  | case1 => cases h
  | case2 cs =>
    cases h
    exact .close
  | case3 => cases h
  | case4 a b c d cs u hu ih =>
    obtain ⟨more, hmore, rfl⟩ := hunit h
    exact .number hu (ih hmore)
  | case5 => cases h
  | case6 c cs _ c' hc' ih =>
    obtain ⟨more, hmore, rfl⟩ := hunit h
    exact .letter hc' (ih hmore)
  | case7 => cases h
  | case8 c cs hmark _ hslash hlow ih =>
    obtain ⟨more, hmore, rfl⟩ := hunit h
    refine .plain (UInt32.not_lt.1 hlow) hmark ?_ (ih hmore)
    rintro rfl
    cases cs with
    | nil => cases hmore
    | cons c cs => exact hslash c cs rfl rfl

/-- The reader reads all units that there are. -/
theorem readUnits_eq {cs rest : CodePoints} {us : List (CodePoint × Bool)} (h : Units cs us rest) :
    readUnits cs = some (us, rest) := by
  induction h with
  | close => rfl
  | plain hlow hmark hslash _ ih =>
    rw [readUnits.eq_5 _ _ hmark (fun _ _ _ _ _ h => absurd h hslash) fun _ _ h => absurd h hslash,
      if_neg (UInt32.not_lt.2 hlow), ih]
    rfl
  | @letter e c cs rest us he _ ih =>
    have hletter : e ≠ 0x75 := by
      rintro rfl
      cases he
    rw [readUnits.eq_4 _ _ fun _ _ _ _ _ h => absurd h hletter, he]
    dsimp only
    rw [ih]
    rfl
  | number hu _ ih =>
    rw [readUnits, hu]
    dsimp only
    rw [ih]
    rfl

/-! ## Numbers -/

/-- A digit is read before the digits that follow it. -/
theorem readDigits_cons {c : CodePoint} (hc : isDigit c = true) (cs : CodePoints) :
    readDigits (c :: cs) = (digit c :: (readDigits cs).1, (readDigits cs).2) := by
  unfold readDigits
  rw [List.takeWhile_cons_of_pos hc, List.dropWhile_cons_of_pos hc]
  rfl

/-- There are no digits where a text begins with none. -/
theorem readDigits_of_stops {cs : CodePoints} (h : Stops isDigit cs) :
    readDigits cs = ([], cs) := by
  cases cs with
  | nil => rfl
  | cons c cs =>
    have hc : ¬isDigit c = true := Bool.eq_false_iff.1 (stops_cons.1 h)
    unfold readDigits
    rw [List.takeWhile_cons_of_neg hc, List.dropWhile_cons_of_neg hc]
    rfl

/-- The reader reads digits, or nothing. -/
theorem digits_readDigits (cs : CodePoints) :
    readDigits cs = ([], cs) ∨ Digits cs (readDigits cs).1 (readDigits cs).2 := by
  induction cs with
  | nil => exact .inl rfl
  | cons c cs ih =>
    by_cases hc : isDigit c = true
    · right
      rw [readDigits_cons hc]
      rcases ih with hnone | hmore
      · rw [hnone]
        exact .one hc
      · exact .more hc hmore
    · exact .inl (readDigits_of_stops (stops_cons.2 (by simpa using hc)))

/-- The reader reads all digits that there are. -/
theorem readDigits_eq {cs rest : CodePoints} {ds : List Nat} (h : Digits cs ds rest)
    (hrest : Stops isDigit rest) : readDigits cs = (ds, rest) := by
  induction h with
  | one hc => rw [readDigits_cons hc, readDigits_of_stops hrest]
  | more hc _ ih => rw [readDigits_cons hc, ih hrest]

/-- Digits are not nothing. -/
theorem Grammar.Digits.ne_nil {cs rest : CodePoints} {ds : List Nat} (h : Digits cs ds rest) :
    ds ≠ [] := by
  cases h <;> exact List.cons_ne_nil _ _

/-- A text that begins with digits begins with one. -/
theorem Grammar.Digits.head {cs rest : CodePoints} {ds : List Nat} (h : Digits cs ds rest) :
    ∃ c more, cs = c :: more ∧ isDigit c = true := by
  cases h with
  | one hc | more hc => exact ⟨_, _, rfl, hc⟩

/-- Where there are digits, some are read. -/
theorem readDigits_ne_nil {cs rest : CodePoints} {ds : List Nat} (h : Digits cs ds rest) :
    (readDigits cs).1 ≠ [] := by
  obtain ⟨c, more, rfl, hc⟩ := h.head
  rw [readDigits_cons hc]
  exact List.cons_ne_nil _ _

/-- The reader reads a fraction, or none. -/
theorem fraction_readFraction (cs : CodePoints) :
    Fraction cs (readFraction cs).1 (readFraction cs).2 := by
  unfold readFraction
  split
  next cs =>
    rcases digits_readDigits cs with hnone | hdigits
    · rw [hnone]
      exact .absent
    · split
      next => exact .absent
      next => exact .present hdigits
  next => exact .absent

/-- A point with digits behind it is read with them. -/
theorem readFraction_present {cs rest : CodePoints} {ds : List Nat} (h : Digits cs ds rest) :
    readFraction (0x2E :: cs) = readDigits cs := by
  have hsome := readDigits_ne_nil h
  rw [readFraction]
  split
  next heq =>
    rw [heq] at hsome
    exact absurd rfl hsome
  next => rfl

/-- The reader reads all of a fraction. -/
theorem readFraction_eq {cs rest : CodePoints} {ds : List Nat} (h : Fraction cs ds rest)
    (hrest : Stops (fun c => isDigit c || c == 0x2E) rest) : readFraction cs = (ds, rest) := by
  cases h with
  | absent =>
    unfold readFraction
    split
    next => cases hrest _ rfl
    next => rfl
  | present hdigits =>
    have hstops : Stops isDigit rest := fun c hc => (Bool.or_eq_false_iff.1 (hrest c hc)).1
    rw [readFraction_present hdigits, readDigits_eq hdigits hstops]

/-- The reader reads an exponent, or none. -/
theorem exponent_readExponent (cs : CodePoints) :
    Exponent cs (readExponent cs).1 (readExponent cs).2 := by
  unfold readExponent
  split
  next e cs =>
    split
    next he =>
      have he : e = 0x65 ∨ e = 0x45 := by simpa using he
      dsimp only
      split
      next => exact .absent
      next ds rest hsome hread =>
        have hdigits {body : CodePoints} (h : readDigits body = (ds, rest)) :
            Digits body ds rest := by
          rcases digits_readDigits body with hnone | hdigits
          · cases hnone.symm.trans h
            exact absurd rfl hsome
          · rwa [h] at hdigits
        revert hread
        split
        next => exact fun hread => .present he (.minus .present) (hdigits hread)
        next => exact fun hread => .present he .plus (hdigits hread)
        next => exact fun hread => .present he (.minus .absent) (hdigits hread)
    next => exact .absent
  next => exact .absent

/-- An exponent with digits is read with them. -/
theorem readExponent_present {e : CodePoint} {cs body rest : CodePoints} {negative : Bool}
    {ds : List Nat} (he : e = 0x65 ∨ e = 0x45) (hsign : Sign cs negative body)
    (h : Digits body ds rest) : readExponent (e :: cs) =
      (some (Exact.signed negative (ofDigits (readDigits body).1)), (readDigits body).2) := by
  have he : (e == 0x65 || e == 0x45) = true := by simpa using he
  have hsome := readDigits_ne_nil h
  rcases hread : readDigits body with ⟨ds', rest'⟩
  rw [hread] at hsome
  simp only [readExponent, he, if_true]
  cases hsign with
  | minus hminus =>
    cases hminus with
    | absent =>
      obtain ⟨c, more, rfl, hc⟩ := h.head
      have hminus : c ≠ 0x2D := by
        rintro rfl
        cases hc
      have hplus : c ≠ 0x2B := by
        rintro rfl
        cases hc
      simp [hread, hminus, hplus]
    | present => simp only [hread]
  | plus => simp only [hread]

/-- The reader reads all of an exponent. -/
theorem readExponent_eq {cs rest : CodePoints} {power : Option Int} (h : Exponent cs power rest)
    (hrest : Stops (fun c => isDigit c || (c == 0x65 || c == 0x45)) rest) :
    readExponent cs = (power, rest) := by
  cases h with
  | absent =>
    cases cs with
    | nil => rfl
    | cons e cs =>
      have he := (Bool.or_eq_false_iff.1 (stops_cons.1 hrest)).2
      simp only [readExponent, he, Bool.false_eq_true, if_false]
  | present he hsign hdigits =>
    have hstops : Stops isDigit rest := fun c hc => (Bool.or_eq_false_iff.1 (hrest c hc)).1
    rw [readExponent_present he hsign hdigits, readDigits_eq hdigits hstops]

/-- A fault that lies not in a text, but in what the reader can take. -/
def Fault.IsLimit : Fault → Prop
  | .tooLong _ | .tooDeep _ => True
  | .undecodable | .malformed => False

/-- A reading that came to a limit. -/
def Overruns (reading : Reading Json) : Prop :=
  ∃ e, reading = .error e ∧ e.IsLimit

/-- A reading that has what it has to have, if it did not come to a limit. -/
def Settles (reading : Reading Json) (v : Json) (rest : CodePoints) : Prop :=
  reading = .ok (v, rest) ∨ Overruns reading

/-- Where a value may end: at the end of the text, or in front of a space, a comma or the end of
what holds the value. -/
def Ends (cs : CodePoints) : Prop :=
  ∀ c, cs.head? = some c → isSpace c = true ∨ c = 0x2C ∨ c = 0x5D ∨ c = 0x7D

/-- A number whose digits before the point were read. -/
def readTail (negative : Bool) (whole : List Nat) (cs : CodePoints) : Reading Json :=
  let (part, rest) := readFraction cs
  let (power, rest) := readExponent rest
  if part.isEmpty && power.isNone then
    match Numeral.natural whole with
    | .ok n => .ok (.int (Exact.signed negative n), rest)
    | .error e => .error (.tooLong e.digits)
  else
    let x := Binary64.ofDecimal negative (ofDigits (whole ++ part))
      (power.getD 0 - (part.length : Int))
    .ok (.float x, rest)

/-- A number that begins with a zero has no more digits before the point. -/
@[simp] theorem readNumber_zero (negative : Bool) (cs : CodePoints) :
    readNumber negative (0x30 :: cs) = readTail negative [0] cs := rfl

/-- A number that does not begin with a zero has all the digits that there are. -/
theorem readNumber_digits (negative : Bool) {cs : CodePoints} (h : cs.head? ≠ some 0x30) :
    readNumber negative cs =
      if (readDigits cs).1.isEmpty then .error .malformed
      else readTail negative (readDigits cs).1 (readDigits cs).2 := by
  cases cs with
  | nil => rfl
  | cons c cs =>
    have hne : c ≠ 0x30 := by simpa using h
    unfold readNumber
    split
    next whole rest hread =>
      split at hread
      next heq => exact absurd (List.cons.inj heq).1 hne
      next => rw [hread]; rfl

/-- The number that is read, unless it is an integer with too many digits. -/
theorem readTail_eq (negative : Bool) (whole : List Nat) {cs cs₁ rest : CodePoints}
    {part : List Nat} {power : Option Int} (hpart : readFraction cs = (part, cs₁))
    (hpower : readExponent cs₁ = (power, rest)) :
    readTail negative whole cs =
      if (part.isEmpty && power.isNone) = true ∧ Numeral.digitLimit < whole.length then
        .error (.tooLong whole.length)
      else .ok (numberOf negative whole part power, rest) := by
  unfold readTail Numeral.natural numberOf
  rw [hpart]
  dsimp only
  rw [hpower]
  dsimp only
  by_cases hint : (part.isEmpty && power.isNone) = true
  · rw [if_pos hint, if_pos hint]
    by_cases hlong : Numeral.digitLimit < whole.length
    · rw [if_pos hlong, if_pos ⟨hint, hlong⟩]
    · rw [if_neg hlong, if_neg fun h => hlong h.2]
  · rw [if_neg hint, if_neg hint, if_neg fun h => hint h.1]

/-- What is read is a number. -/
theorem number_of_readTail {negative : Bool} {whole : List Nat} {cs cs₁ cs₂ rest : CodePoints}
    {v : Json} (hminus : Minus cs negative cs₁) (hwhole : Whole cs₁ whole cs₂)
    (h : readTail negative whole cs₂ = .ok (v, rest)) : Number cs v rest := by
  have hfraction := fraction_readFraction cs₂
  rcases hpart : readFraction cs₂ with ⟨part, cs₃⟩
  have hexponent := exponent_readExponent cs₃
  rcases hpower : readExponent cs₃ with ⟨power, rest'⟩
  rw [hpart] at hfraction
  rw [hpower] at hexponent
  rw [readTail_eq negative whole hpart hpower] at h
  split at h
  next => cases h
  next =>
    cases h
    exact .of hminus hwhole hfraction hexponent

/-- The reader reads a number behind its sign. -/
theorem number_of_readNumber {negative : Bool} {cs cs₁ rest : CodePoints} {v : Json}
    (hminus : Minus cs negative cs₁) (h : readNumber negative cs₁ = .ok (v, rest)) :
    Number cs v rest := by
  by_cases hzero : cs₁.head? = some 0x30
  · obtain ⟨more, rfl⟩ := List.head?_eq_some_iff.1 hzero
    rw [readNumber_zero] at h
    exact number_of_readTail hminus .zero h
  · rw [readNumber_digits negative hzero] at h
    rcases digits_readDigits cs₁ with hnone | hdigits
    · rw [hnone] at h
      cases h
    · rw [if_neg (by simpa using hdigits.ne_nil)] at h
      exact number_of_readTail hminus (.digits hzero hdigits) h

/-- Where a value ends no digit, no point and no exponent follows. -/
theorem Ends.stops {cs : CodePoints} (h : Ends cs) :
    Stops (fun c => isDigit c || c == 0x2E || (c == 0x65 || c == 0x45)) cs := by
  intro c hc
  rcases h c hc with hspace | rfl | rfl | rfl
  · simp only [isSpace, Bool.or_eq_true, beq_iff_eq] at hspace
    rcases hspace with ((rfl | rfl) | rfl) | rfl <;> decide
  all_goals decide

theorem Stops.imp {p q : CodePoint → Bool} {cs : CodePoints} (h : Stops p cs)
    (hpq : ∀ c, q c = true → p c = true) : Stops q cs := by
  intro c hc
  have hp := h c hc
  cases hq : q c with
  | false => rfl
  | true => rwa [hpq c hq] at hp

/-- An exponent, and what follows a number, begin with no digit and no point. -/
theorem Grammar.Exponent.stops {cs rest : CodePoints} {power : Option Int}
    (h : Exponent cs power rest) (hrest : Ends rest) :
    Stops (fun c => isDigit c || c == 0x2E) cs := by
  cases h with
  | absent => exact hrest.stops.imp fun c hc => by simp [hc]
  | present he => rcases he with rfl | rfl <;> exact stops_cons.2 (by decide)

/-- A fraction, and what follows it, begin with no digit. -/
theorem Grammar.Fraction.stops {cs rest : CodePoints} {ds : List Nat} (h : Fraction cs ds rest)
    (hrest : Stops (fun c => isDigit c || c == 0x2E) rest) : Stops isDigit cs := by
  cases h with
  | absent => exact hrest.imp fun c hc => by simp [hc]
  | present => exact stops_cons.2 (by decide)

/-- The reader reads all digits before the point. -/
theorem readNumber_eq (negative : Bool) {cs rest : CodePoints} {whole : List Nat}
    (h : Whole cs whole rest) (hrest : Stops isDigit rest) :
    readNumber negative cs = readTail negative whole rest := by
  cases h with
  | zero => exact readNumber_zero negative rest
  | digits hzero hdigits =>
    have hsome := hdigits.ne_nil
    rw [readNumber_digits negative hzero, readDigits_eq hdigits hrest,
      if_neg (by simpa using hsome)]

/-- The reader reads all of a number. -/
theorem readNumber_settles (negative : Bool) {cs cs₁ cs₂ rest : CodePoints}
    {whole part : List Nat} {power : Option Int} (hwhole : Whole cs whole cs₁)
    (hpart : Fraction cs₁ part cs₂) (hpower : Exponent cs₂ power rest) (hrest : Ends rest) :
    Settles (readNumber negative cs) (numberOf negative whole part power) rest := by
  have hstops := hpower.stops hrest
  have hexponent : Stops (fun c => isDigit c || (c == 0x65 || c == 0x45)) rest := by
    refine hrest.stops.imp fun c hc => ?_
    simp only [Bool.or_eq_true] at hc ⊢
    exact hc.imp_left .inl
  rw [readNumber_eq negative hwhole (hpart.stops hstops),
    readTail_eq negative whole (readFraction_eq hpart hstops) (readExponent_eq hpower hexponent)]
  split
  next => exact .inr ⟨_, rfl, trivial⟩
  next => exact .inl rfl

/-! ## Words -/

/-- What begins a string, an array or an object, and what ends an array. -/
def isMark (c : CodePoint) : Bool :=
  c == 0x22 || c == 0x5B || c == 0x5D || c == 0x7B

/-- A word begins with no digit, and not like a negative number, a string, an array or an object,
with a space or with what ends an array. -/
theorem words_begin : (words.map Prod.fst).all (fun w =>
    w.head?.any (fun c => !isDigit c && !isSpace c && !isMark c) &&
      (w.head? != some 0x2D || (w.drop 1).head?.any fun c => !isDigit c)) = true := by
  decide +kernel

/-- A word has something that it begins with. -/
theorem word_begins {w : CodePoints} {v : Json} (h : (w, v) ∈ words) :
    ∃ c more, w = c :: more ∧ isDigit c = false ∧ isSpace c = false ∧ isMark c = false := by
  have hword := List.all_eq_true.1 words_begin w (List.mem_map_of_mem h)
  cases w with
  | nil => cases hword
  | cons c more =>
    simp only [List.head?_cons, Option.any_some, Bool.and_eq_true, Bool.not_eq_true'] at hword
    exact ⟨c, more, rfl, hword.1.1.1, hword.1.1.2, hword.1.2⟩

/-- A word is read, whatever follows it. -/
theorem readPlain_word {w rest : CodePoints} {v : Json} (h : (w, v) ∈ words) :
    readPlain (w ++ rest) = .ok (v, rest) := by
  simp only [words, List.map_cons, List.map_nil, List.mem_cons, List.not_mem_nil, or_false] at h
  rcases h with h | h | h | h | h | h <;> cases h <;> rfl

/-- What is read is a word or a number. -/
theorem value_of_readPlain {cs rest : CodePoints} {v : Json} (h : readPlain cs = .ok (v, rest)) :
    Value cs v rest := by
  unfold readPlain at h
  split at h
  next w v' hfound =>
    cases h
    have hbegins : w <+: cs := by
      have hword := List.find?_some hfound
      exact List.isPrefixOf_iff_prefix.1 hword
    obtain ⟨more, rfl⟩ := hbegins
    rw [List.drop_left]
    exact .word (List.mem_of_find?_eq_some hfound)
  next =>
    split at h
    next body => exact .number (number_of_readNumber .present h)
    next => exact .number (number_of_readNumber .absent h)

/-- A number begins with a digit, or with a minus sign and a digit. -/
theorem Grammar.Number.begins {cs rest : CodePoints} {v : Json} (h : Number cs v rest) :
    ∃ c more, cs = c :: more ∧
      (isDigit c = true ∨ c = 0x2D ∧ ∃ d, more.head? = some d ∧ isDigit d = true) := by
  have hwhole {cs rest : CodePoints} {ds : List Nat} (h : Whole cs ds rest) :
      ∃ c more, cs = c :: more ∧ isDigit c = true := by
    cases h with
    | zero => exact ⟨_, _, rfl, by decide⟩
    | digits _ hdigits => exact hdigits.head
  cases h with
  | of hminus hw =>
    obtain ⟨c, more, rfl, hc⟩ := hwhole hw
    cases hminus with
    | absent => exact ⟨c, more, rfl, .inl hc⟩
    | present => exact ⟨_, _, rfl, .inr ⟨rfl, c, rfl, hc⟩⟩

/-- No number begins with a word. -/
theorem find?_of_number {cs rest : CodePoints} {v : Json} (h : Number cs v rest) :
    words.find? (fun (w, _) => w.isPrefixOf cs) = none := by
  obtain ⟨c, more, rfl, hbegins⟩ := h.begins
  refine List.find?_eq_none.2 fun (w, v') hp hprefix => ?_
  have hword := List.all_eq_true.1 words_begin w (List.mem_map_of_mem hp)
  obtain ⟨tail, htail⟩ := List.isPrefixOf_iff_prefix.1 hprefix
  cases w with
  | nil => cases hword
  | cons a w =>
    obtain ⟨rfl, rfl⟩ := List.cons.inj htail
    simp only [List.head?_cons, Option.any_some, List.drop_one, List.tail_cons, Bool.and_eq_true,
      Bool.not_eq_true', Bool.or_eq_true, bne_iff_ne, ne_eq, Option.some.injEq] at hword
    rcases hbegins with hdigit | ⟨rfl, d, hd, hdigit⟩
    · rw [hword.1.1.1] at hdigit
      cases hdigit
    · have hsecond := hword.2.resolve_left fun h => h rfl
      cases w with
      | nil => cases hsecond
      | cons b w =>
        obtain rfl := Option.some.inj hd
        simp [hdigit] at hsecond

/-- What begins like a number is read as one. -/
theorem readPlain_eq {cs cs₁ rest : CodePoints} {negative : Bool} {whole : List Nat}
    (hminus : Minus cs negative cs₁) (hwhole : Whole cs₁ whole rest) :
    readPlain cs = readNumber negative cs₁ := by
  unfold readPlain
  rw [find?_of_number (.of hminus hwhole .absent .absent)]
  dsimp only
  cases hminus with
  | present => rfl
  | absent =>
    split
    next =>
      cases hwhole with
      | digits _ hdigits =>
        obtain ⟨c, more, heq, hc⟩ := hdigits.head
        cases heq
        cases hc
    next => rfl

/-- A number is read to its end. -/
theorem readPlain_number {cs rest : CodePoints} {v : Json} (h : Number cs v rest)
    (hrest : Ends rest) : Settles (readPlain cs) v rest := by
  cases h with
  | of hminus hwhole hpart hpower =>
    rw [readPlain_eq hminus hwhole]
    exact readNumber_settles _ hwhole hpart hpower hrest

end BlockingQuery.Json
