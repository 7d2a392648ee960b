import BlockingQuery.Proofs.Number.Numeral
import BlockingQuery.Proofs.Target
import BlockingQuery.Wait

/-!
# Budgets that were written

A budget is written in one of two forms, and either of them is read back as its own duration
(`Wait.parse_format`): the unit is the last character, what precedes it are the digits of the
number, and a number of minutes stands for a budget of whole minutes only. Writing a budget fails
where reading it back would fail, for a number with too many digits (`Wait.write_eq_ok_iff`).
-/

namespace BlockingQuery.Wait

open Text

/-- A budget is written as its text just if the number has no more digits than may be written. -/
theorem write_eq_ok_iff {s : Int} {text : String} :
    write s = .ok text ↔
      (digits (number s).natAbs).length ≤ Numeral.digitLimit ∧ text = format s := by
  unfold write Numeral.written
  split
  next hlong =>
    constructor
    · intro h
      cases h
    · intro h
      exact absurd h.1 (not_le.2 hlong)
  next hshort =>
    constructor
    · intro h
      cases h
      exact ⟨not_lt.1 hshort, rfl⟩
    · rintro ⟨-, rfl⟩
      rfl

/-- The text of a budget is a number of minutes or of seconds, which make up the budget. -/
theorem format_cases (s : Int) :
    ∃ (unit : Char) (seconds : Nat), unit? unit = some (1000 * seconds) ∧ isBlank unit = false ∧
      format s = String.ofList (decimal (number s) ++ [unit]) ∧ number s * seconds = s := by
  unfold format number
  split
  next h => exact ⟨'m', 60, rfl, rfl, rfl, by omega⟩
  next => exact ⟨'s', 1, rfl, rfl, rfl, by omega⟩

/-- Digits are read one by one. -/
theorem digits?_map_digitChar {ds : List Nat} (hne : ds ≠ []) (hsmall : ∀ d ∈ ds, d < 10) :
    digits? (ds.map Nat.digitChar) = some ds := by
  have hread : (ds.map Nat.digitChar).mapM digit? = some ds := by
    clear hne
    induction ds with
    | nil => rfl
    | cons d ds ih =>
      obtain ⟨hd, hds⟩ := List.forall_mem_cons.1 hsmall
      simp [(Numeral.read_digitChar d hd).1, ih hds]
  rw [digits?, if_neg (by simpa using hne), hread]

/-- A number that is written with its unit is read as so many units. -/
theorem parse_digits {unit : Char} {n ms : Nat} (hunit : unit? unit = some ms)
    (hblank : isBlank unit = false) (hlength : (digits n).length ≤ Numeral.digitLimit) :
    parse (some (String.ofList (digits n ++ [unit]))) = .ok (some (n * ms)) := by
  obtain ⟨ds, hsmall, hdigits, hvalue⟩ := exists_digits n
  have hne : ds ≠ [] := by
    rintro rfl
    exact Nat.toDigits_ne_nil hdigits
  have hplain : ∀ c ∈ digits n ++ [unit], isBlank c = false := by
    have hdigit : ∀ d < 10, isBlank (Nat.digitChar d) = false := by decide
    rw [List.forall_mem_append, List.forall_mem_singleton, hdigits, List.forall_mem_map]
    exact ⟨fun d hd => hdigit d (hsmall d hd), hblank⟩
  have htrim : trim (digits n ++ [unit]) = digits n ++ [unit] := by
    simpa using trim_append (by simp) hplain []
  have hnatural : Numeral.natural ds = .ok n := by
    rw [hdigits, List.length_map] at hlength
    rw [Numeral.natural, if_neg (not_lt.2 hlength), hvalue]
  rw [parse, String.toList_ofList, htrim, hdigits]
  simp [parseTrimmed, hunit, digits?_map_digitChar hne hsmall, hnatural, Except.map]

/-- A budget is read back as its own duration, in milliseconds. -/
theorem parse_format {s : Int} (hs : 0 ≤ s)
    (hlength : (digits (number s).natAbs).length ≤ Numeral.digitLimit) :
    parse (some (format s)) = .ok (some (1000 * s).toNat) := by
  obtain ⟨unit, seconds, hunit, hblank, hformat, hnumber⟩ := format_cases s
  have hnonneg : 0 ≤ number s := by
    unfold number
    split <;> omega
  obtain ⟨n, hn⟩ := Int.eq_ofNat_of_zero_le hnonneg
  rw [hn] at hformat hlength hnumber
  have hduration : n * (1000 * seconds) = (1000 * s).toNat := by
    rw [← hnumber, Nat.mul_left_comm]
    rfl
  rw [hformat, ← hduration]
  exact parse_digits hunit hblank hlength

end BlockingQuery.Wait
