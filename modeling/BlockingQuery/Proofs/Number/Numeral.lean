import BlockingQuery.Number.Numeral

/-!
# Numerals that were written

The decimal text of a number consists of ASCII digits (`Text.exists_digits`), which stand for
themselves when it is read. So an integer is read back from its text (`Numeral.int?_decimal`), as
long as that is not too long.
-/

namespace BlockingQuery

/-! ## The digits of a number -/

namespace Text

/-- The digits of a number are characters of digits that write it. -/
theorem exists_digits (n : Nat) :
    ∃ ds : List Nat, (∀ d ∈ ds, d < 10) ∧ digits n = ds.map Nat.digitChar ∧ ofDigits ds = n := by
  have hdigit (c : Char) (hc : c ∈ digits n) : 0x30 ≤ c.toNat ∧ c.toNat ≤ 0x39 := by
    have hc : c.isDigit = true := Nat.isDigit_of_mem_toDigits (by decide) (by decide) hc
    simpa [Char.isDigit, UInt32.le_iff_toNat_le] using hc
  refine ⟨(digits n).map (·.toNat - 0x30), ?_, ?_, ?_⟩
  · rw [List.forall_mem_map]
    intro c hc
    have := hdigit c hc
    omega
  · rw [List.map_map]
    refine (List.map_id _).symm.trans (List.map_congr_left fun c hc => ?_)
    obtain ⟨hlow, hhigh⟩ := hdigit c hc
    have hchar : ∀ d < 10, Nat.digitChar d = Char.ofNat (d + 0x30) := by decide
    rw [Function.comp_apply, hchar _ (by omega), Nat.sub_add_cancel hlow, Char.ofNat_toNat, id]
  · rw [ofDigits, List.foldl_map]
    exact Nat.ofDigitChars_eq_foldl.symm.trans Nat.ofDigitChars_ten_toDigits

end Text

/-! ## Integers -/

namespace Numeral

open Text

/-- What a digit is read as. -/
theorem read_digitChar : ∀ d < 10, digit? (Nat.digitChar d) = some d ∧
    asciiDigit? (Nat.digitChar d) = some d ∧ isSpace (Nat.digitChar d) = false ∧
    Nat.digitChar d ≠ '_' ∧ Nat.digitChar d ≠ '-' ∧ Nat.digitChar d ≠ '+' := by
  decide

/-- A text without spaces in which no digit is of another script stays as it is. -/
theorem plain_eq_self {cs : List Char}
    (h : ∀ c ∈ cs, c = '-' ∨ ∃ d < 10, c = Nat.digitChar d) : plain cs = cs := by
  have hspace (c : Char) (hc : c ∈ cs) : ¬isSpace c = true := by
    rcases h c hc with rfl | ⟨d, hd, rfl⟩
    · decide
    · simp [(read_digitChar d hd).2.2.1]
  have hdrop (ds : List Char) (hds : ∀ c ∈ ds, c ∈ cs) : ds.dropWhile isSpace = ds := by
    cases ds with
    | nil => rfl
    | cons c ds => exact List.dropWhile_cons_of_neg (hspace c (hds c List.mem_cons_self))
  rw [plain, hdrop cs fun _ => id, hdrop cs.reverse fun _ => List.mem_reverse.1,
    List.reverse_reverse]
  refine (List.map_congr_left fun c hc => ?_).trans (List.map_id cs)
  rcases h c hc with rfl | ⟨d, hd, rfl⟩
  · rfl
  · simp [(read_digitChar d hd).1]

/-- Digits are read one by one. -/
theorem grouped?_map_digitChar {ds : List Nat} (hne : ds ≠ []) (h : ∀ d ∈ ds, d < 10) :
    grouped? (ds.map Nat.digitChar) = some ds := by
  induction ds with
  | nil => exact absurd rfl hne
  | cons d ds ih =>
    have hd := (read_digitChar d (h d List.mem_cons_self)).2.1
    cases ds with
    | nil => simp [grouped?, hd]
    | cons e es =>
      have hrest := ih (List.cons_ne_nil e es) fun x hx => h x (List.mem_cons_of_mem d hx)
      rw [List.map_cons] at hrest
      simp [grouped?, hd, hrest]

/-- A text that begins with a digit has no sign. -/
theorem splitSign_map_digitChar {ds : List Nat} (h : ∀ d ∈ ds, d < 10) :
    splitSign (ds.map Nat.digitChar) = (false, ds.map Nat.digitChar) := by
  cases ds with
  | nil => rfl
  | cons d ds =>
    obtain ⟨-, -, -, -, hminus, hplus⟩ := read_digitChar d (h d List.mem_cons_self)
    unfold splitSign
    split
    next heq => exact absurd (List.cons.inj heq).1 hminus
    next heq => exact absurd (List.cons.inj heq).1 hplus
    next => rfl

/-- A sign and digits, not too many of them, are an integer. -/
theorem int?_of_splitSign {cs : List Char} {negative : Bool} {ds : List Nat}
    (hsplit : splitSign (plain cs) = (negative, ds.map Nat.digitChar)) (hne : ds ≠ [])
    (hsmall : ∀ d ∈ ds, d < 10) (hlength : ds.length ≤ digitLimit) :
    int? cs = some (Exact.signed negative (ofDigits ds)) := by
  have hnatural : natural ds = .ok (ofDigits ds) := if_neg (Nat.not_lt.2 hlength)
  simp only [int?, hsplit, grouped?_map_digitChar hne hsmall, Option.map_some, hnatural]

/-- An integer is read back from its decimal text. -/
theorem int?_decimal (n : Int) (h : (digits n.natAbs).length ≤ digitLimit) :
    int? (decimal n) = some n := by
  obtain ⟨ds, hsmall, hdigits, hvalue⟩ := exists_digits n.natAbs
  have hne : ds ≠ [] := by
    rintro rfl
    exact Nat.toDigits_ne_nil hdigits
  have hmember : ∀ c ∈ ds.map Nat.digitChar, c = '-' ∨ ∃ d < 10, c = Nat.digitChar d := by
    rw [List.forall_mem_map]
    exact fun d hd => .inr ⟨d, hsmall d hd, rfl⟩
  have hlength : ds.length ≤ digitLimit := by rwa [hdigits, List.length_map] at h
  cases n with
  | ofNat n =>
    have hsplit : splitSign (plain (decimal (.ofNat n))) = (false, ds.map Nat.digitChar) := by
      have hdecimal : decimal (.ofNat n) = ds.map Nat.digitChar := hdigits
      rw [hdecimal, plain_eq_self hmember, splitSign_map_digitChar hsmall]
    rw [int?_of_splitSign hsplit hne hsmall hlength, hvalue]
    rfl
  | negSucc n =>
    have hsplit : splitSign (plain (decimal (.negSucc n))) = (true, ds.map Nat.digitChar) := by
      have hdecimal : decimal (.negSucc n) = '-' :: ds.map Nat.digitChar :=
        congrArg ('-' :: ·) hdigits
      rw [hdecimal, plain_eq_self (List.forall_mem_cons.2 ⟨.inl rfl, hmember⟩)]
      rfl
    rw [int?_of_splitSign hsplit hne hsmall hlength, hvalue]
    rfl

end Numeral

end BlockingQuery
