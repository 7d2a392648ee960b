import BlockingQuery.Proofs.Failover.Attempts
import BlockingQuery.Proofs.Number.Product

/-!
# Read limits

A wait is a whole number of seconds, so its sixteenth is a whole number of milliseconds or lies in
the middle between two. The quotient is worked out as a double, and then rounded up: below `2 ^ 56`
it is exact (`Adjustment.late_of_lt`), from there on it is rounded to a multiple of a power of two
first (`Adjustment.late_of_log2`). So it is known for which waits the read limit is the one that it
should be (`Adjustment.fits_iff`).

The limit that a request has is counted in milliseconds before anything else, also where there is
nothing to adjust. `Adjustment.apply_sameButRead` says for which requests that can be done, and that
nothing but the read limit is changed.
-/

namespace BlockingQuery

/-! ## Waits -/

/-- A wait is a whole number of seconds. -/
theorem Wait.dvd_of_parse {wait : Option String} {w : Nat} (h : Wait.parse wait = .ok (some w)) :
    1000 ∣ w := by
  unfold Wait.parse at h
  split at h
  next => cases h
  next s =>
    unfold Wait.parseTrimmed at h
    split at h
    next unit ds hunit _ =>
      obtain ⟨c, -, hc⟩ := Option.bind_eq_some_iff.1 hunit
      have hdvd : 1000 ∣ unit := by
        unfold Wait.unit? at hc
        split at hc
        next => cases hc; exact dvd_refl _
        next => cases hc; exact ⟨60, rfl⟩
        next => cases hc
      cases hn : Numeral.natural ds with
      | error e =>
        rw [hn] at h
        cases h
      | ok n =>
        rw [hn] at h
        cases h
        exact Dvd.dvd.mul_left hdvd n
    next => cases h

namespace Adjustment

/-! ## The sixteenth of a wait -/

/-- A wait whose sixteenth lies in the middle between two doubles, the lower one of which has an
even mantissa. -/
def Halfway (w : Nat) : Prop :=
  w % 16 = 8 ∧ 2 ^ 52 ≤ w / 16 ∧ w / 16 < 2 ^ 53 ∧ w / 16 % 2 = 0

/-- The sixteenth of a wait, rounded up. -/
theorem ceilDiv_eq (w : Nat) : w ⌈/⌉ lateness = (w + 15) / 16 :=
  Nat.ceilDiv_eq_add_pred_div w 16

/-- The sixteenth of a wait as a rational number, rounded up. -/
theorem ceil_eq (w : Nat) : ⌈(w : ℚ) / 16⌉ = (w ⌈/⌉ lateness : Nat) := by
  rw [ceilDiv_eq]
  exact Binary64.ceil_div w (d := 16) (by norm_num)

/-- The sixteenth of a wait is the double nearest to it, rounded up. -/
theorem late_eq (w : Nat) :
    late w = match Binary64.ofRatio? false w (2 ^ 4) with
      | none => .error .overflow
      | some x => (Exact.ofFloat x).ceil?.mapError ofFault := by
  have hsign : decide ((w : Int) < 0) = false := decide_eq_false (by omega)
  unfold late Binary64.quotient?
  rw [hsign, Int.natAbs_natCast]
  rfl

/-- The sixteenth of a wait with no more than 56 bits is exact. -/
theorem late_of_lt {w : Nat} (h : 8 ∣ w) (hw : w < 2 ^ 56) :
    late w = .ok (w ⌈/⌉ lateness : Nat) := by
  by_cases hzero : w = 0
  · rw [hzero]
    decide +kernel
  obtain ⟨s, hs⟩ : ∃ s, w.log2 + (s + 1) = 4 + 52 := by
    have : w.log2 < 56 := (Nat.log2_lt hzero).2 hw
    exact ⟨55 - w.log2, by omega⟩
  -- the quotient is a mantissa of 53 bits
  obtain ⟨m, hm⟩ : 16 ∣ w * 2 ^ (s + 1) := by
    rw [show 16 = 8 * 2 from rfl, Nat.pow_succ]
    exact Nat.mul_dvd_mul h (Nat.dvd_mul_left 2 (2 ^ s))
  have hlow : 2 ^ 56 ≤ w * 2 ^ (s + 1) := by
    refine le_trans ?_ (Nat.mul_le_mul_right _ (Nat.log2_self_le hzero))
    rw [← pow_add, hs]
  have hhigh : w * 2 ^ (s + 1) < 2 ^ 57 := by
    refine (Nat.mul_lt_mul_of_pos_right Nat.lt_log2_self (by positivity)).trans_le ?_
    rw [← pow_add, show w.log2 + 1 + (s + 1) = 57 by omega]
  have hround : Binary64.roundDiv (w * 2 ^ (s + 1)) (2 ^ 4) = m := by
    have hdvd : 2 ^ 4 ∣ w * 2 ^ (s + 1) := ⟨m, hm⟩
    rw [Binary64.roundDiv_of_dvd (by positivity) hdvd, hm]
    omega
  have hvalue : (m : ℚ) * 2 ^ (-((s + 1 : Nat) : Int)) = w / 16 := by
    have hcast : (w * 2 ^ (s + 1) : ℚ) = 16 * m := by exact_mod_cast hm
    rw [zpow_neg, zpow_natCast, ← div_eq_mul_inv, div_eq_div_iff (by positivity) (by norm_num),
      hcast, mul_comm]
  rw [late_eq, Binary64.ofRatio?_of_log2_le false hzero hs (by omega), hround]
  dsimp only
  rw [Binary64.ceil?_pack (by omega) (by omega) (by omega) (by omega), hvalue, ceil_eq]
  rfl

/-- A wait with more than 56 bits. -/
theorem exists_log2 {w : Nat} (h : ¬w < 2 ^ 56) : ∃ s, w.log2 = 4 + 52 + s := by
  have hlog : 56 ≤ w.log2 := (Nat.le_log2 (by omega)).2 (not_lt.1 h)
  exact ⟨w.log2 - 56, by omega⟩

section
variable {w s : Nat} (hs : w.log2 = 4 + 52 + s)
include hs

theorem ne_zero_of_log2 : w ≠ 0 := by
  rintro rfl
  rw [Nat.log2_zero] at hs
  omega

/-- The sixteenth of a wait with 57 bits or more is below the bound just if its exponent is below
the last one, or is the last one and the mantissa does not carry. -/
theorem div_lt_bound_iff :
    (w : ℚ) / 16 < Binary64.bound ↔
      s < 971 ∨ s = 971 ∧ Binary64.roundDiv w (2 ^ (4 + s)) < 2 ^ 53 := by
  have hquotient : (w : ℚ) / 16 = w * 2 ^ (-((4 : Nat) : Int)) := by
    rw [zpow_neg, zpow_natCast, ← div_eq_mul_inv]
    norm_num
  rw [hquotient, Binary64.lt_bound_iff_of_log2 (ne_zero_of_log2 hs) hs]

/-- From 57 bits on, the sixteenth of a wait is rounded to a multiple of a power of two, unless it
is beyond the greatest double. -/
theorem late_of_log2 :
    late w = if (w : ℚ) / 16 < Binary64.bound then
        .ok ((Binary64.roundDiv w (2 ^ (4 + s)) * 2 ^ s : Nat) : Int)
      else .error .overflow := by
  have hzero := ne_zero_of_log2 hs
  have hwhole : (Binary64.roundDiv w (2 ^ (4 + s)) : ℚ) * 2 ^ s =
      ((Binary64.roundDiv w (2 ^ (4 + s)) * 2 ^ s : Nat) : ℚ) := by
    push_cast
    rfl
  obtain ⟨hlow, hhigh⟩ := Binary64.roundDiv_of_log2 (k := 4 + s) (b := 52) hzero (by omega)
  rw [late_eq, Binary64.ofRatio?_of_le_log2 false hzero hs]
  simp only [Binary64.lt_bound_iff_of_log2 hzero hs, div_lt_bound_iff hs]
  by_cases hbelow : s < 971 ∨ s = 971 ∧ Binary64.roundDiv w (2 ^ (4 + s)) < 2 ^ 53
  · rw [if_pos hbelow, if_pos hbelow]
    dsimp only
    rw [Binary64.ceil?_pack hhigh (by omega) (by omega) (by omega), zpow_natCast, hwhole,
      Int.ceil_natCast]
    rfl
  · rw [if_neg hbelow, if_neg hbelow]

/-- What the sixteenth of such a wait comes to. -/
theorem late_eq_ok_iff (n : Nat) :
    late w = .ok (n : Int) ↔
      (s < 971 ∨ s = 971 ∧ Binary64.roundDiv w (2 ^ (4 + s)) < 2 ^ 53) ∧
        Binary64.roundDiv w (2 ^ (4 + s)) * 2 ^ s = n := by
  rw [late_of_log2 hs, ← div_lt_bound_iff hs]
  split
  next hbelow =>
    rw [Except.ok.injEq, Nat.cast_inj]
    exact (and_iff_right hbelow).symm
  next hbeyond =>
    constructor
    · intro h
      cases h
    · intro h
      exact absurd h.1 hbeyond

end

/-- In a wait of whole seconds with 57 bits, a half of a millisecond is rounded to the even side. -/
theorem late_eq_iff_of_half {w : Nat} (h : 8 ∣ w) (hs : w.log2 = 4 + 52) :
    late w = .ok (w ⌈/⌉ lateness : Nat) ↔ ¬Halfway w := by
  have hzero := ne_zero_of_log2 (s := 0) hs
  have hlow : 2 ^ 56 ≤ w := (Nat.le_log2 hzero).1 (by omega)
  have hhigh : w < 2 ^ 57 := (Nat.log2_lt hzero).1 (by omega)
  rw [late_eq_ok_iff (s := 0) hs, ceilDiv_eq]
  unfold Halfway Binary64.roundDiv
  dsimp only
  split_ifs <;> omega

/-- The sixteenth of a wait of whole seconds with 58 bits or more is right just if it is a
double. -/
theorem late_eq_iff_of_log2 {w s : Nat} (h : 8 ∣ w) (hs : w.log2 = 4 + 52 + (s + 1)) :
    late w = .ok (w ⌈/⌉ lateness : Nat) ↔ Binary64.IsDouble (w ⌈/⌉ lateness) := by
  have hzero := ne_zero_of_log2 hs
  rw [late_eq_ok_iff hs, ceilDiv_eq]
  constructor
  · rintro ⟨hbelow, hround⟩
    have hmost := (Binary64.roundDiv_of_log2 (k := 4 + (s + 1)) (b := 52) hzero (by omega)).2
    rw [← hround]
    exact Binary64.isDouble_of_le hmost hbelow
  · rintro ⟨m, e, hm, he, hdouble⟩
    -- a double of that size has no bits below the ones that are kept
    obtain ⟨t, rfl⟩ : ∃ t, e = t + (s + 1) := by
      have hlow : 2 ^ (57 + s) ≤ w := (Nat.le_log2 hzero).1 (by omega)
      refine ⟨e - (s + 1), (Nat.sub_add_cancel (not_lt.1 fun hlt => ?_)).symm⟩
      have hhigh : m * 2 ^ e < 2 ^ 53 * 2 ^ s :=
        Nat.mul_lt_mul_of_lt_of_le hm (Nat.pow_le_pow_right two_pos (by omega)) (by positivity)
      rw [pow_add] at hlow
      omega
    have hexact : m * 2 ^ t * 2 ^ (4 + (s + 1)) = 16 * ((w + 15) / 16) := by
      rw [hdouble]
      ring
    have hround : Binary64.roundDiv w (2 ^ (4 + (s + 1))) = m * 2 ^ t := by
      refine le_antisymm (Binary64.roundDiv_le (by positivity) ?_) ?_
      · rw [hexact]
        omega
      · have hpos : 0 < 2 ^ s := by positivity
        rw [Binary64.le_roundDiv_iff (by positivity), hexact, pow_add, pow_add]
        omega
    rw [hround, mul_assoc, ← pow_add]
    refine ⟨?_, hdouble.symm⟩
    rcases (show s + 1 ≤ 971 by omega).lt_or_eq with hlt | hlast
    · exact .inl hlt
    · obtain rfl : t = 0 := by omega
      rw [pow_zero, mul_one]
      exact .inr ⟨hlast, hm⟩

/-- The sixteenth of a wait of whole seconds is rounded up as it should be just if the result is a
double and the sixteenth is not rounded down to an even mantissa. -/
theorem late_eq_iff {w : Nat} (h : 8 ∣ w) :
    late w = .ok (w ⌈/⌉ lateness : Nat) ↔ Binary64.IsDouble (w ⌈/⌉ lateness) ∧ ¬Halfway w := by
  by_cases hsmall : w < 2 ^ 56
  · have hdouble : Binary64.IsDouble (w ⌈/⌉ lateness) := by
      rw [ceilDiv_eq]
      exact Binary64.isDouble_of_lt (by omega)
    have hhalf : ¬Halfway w := fun ⟨_, hlow, _⟩ => by omega
    exact ⟨fun _ => ⟨hdouble, hhalf⟩, fun _ => late_of_lt h hsmall⟩
  obtain ⟨s, hs⟩ := exists_log2 hsmall
  have hzero := ne_zero_of_log2 hs
  cases s with
  | zero =>
    have hhigh : w < 2 ^ 57 := (Nat.log2_lt hzero).1 (by omega)
    have hdouble : Binary64.IsDouble (w ⌈/⌉ lateness) := by
      rw [ceilDiv_eq, ← Nat.mul_one ((w + 15) / 16), ← Nat.pow_zero 2]
      exact Binary64.isDouble_of_le (by omega) (.inl (by omega))
    rw [late_eq_iff_of_half h hs]
    exact (and_iff_right hdouble).symm
  | succ s =>
    have hlow : 2 ^ 57 ≤ w := (Nat.le_log2 hzero).1 (by omega)
    have hhalf : ¬Halfway w := fun ⟨_, _, hhigh, _⟩ => by omega
    rw [late_eq_iff_of_log2 h hs]
    exact (and_iff_left hhalf).symm

/-- The sixteenth of a wait of whole seconds is missing just if it is beyond the doubles. -/
theorem late_eq_error_iff {w : Nat} (h : 8 ∣ w) (f : Failure) :
    late w = .error f ↔ f = .overflow ∧ Binary64.bound ≤ (w : ℚ) / 16 := by
  by_cases hsmall : w < 2 ^ 56
  · have hlt : (w : ℚ) / 16 < Binary64.bound :=
      calc (w : ℚ) / 16 ≤ w := div_le_self (Nat.cast_nonneg w) (by norm_num)
        _ < 2 ^ (56 : Int) := by exact_mod_cast hsmall
        _ ≤ 2 ^ (1023 : Int) := zpow_le_zpow_right₀ one_le_two (by omega)
        _ ≤ Binary64.bound := Binary64.le_bound.1
    rw [late_of_lt h hsmall]
    constructor
    · intro hf
      cases hf
    · intro hf
      exact absurd hf.2 hlt.not_ge
  · obtain ⟨s, hs⟩ := exists_log2 hsmall
    rw [late_of_log2 hs]
    split
    next hlt =>
      constructor
      · intro hf
        cases hf
      · intro hf
        exact absurd hf.2 hlt.not_ge
    next hge =>
      rw [Except.error.injEq, eq_comm]
      exact (and_iff_left (not_lt.1 hge)).symm

/-- The sixteenth of a wait of whole seconds is short by no more than its `2 ^ 53`rd part. -/
theorem le_late {w : Nat} {l : Int} (h : 8 ∣ w) (hl : late w = .ok l) :
    (w : ℚ) / 16 * (1 - 1 / 2 ^ 53) ≤ l := by
  have hpart : (1 : ℚ) - 1 / 2 ^ 53 ≤ 1 := by norm_num
  by_cases hsmall : w < 2 ^ 56
  · rw [late_of_lt h hsmall] at hl
    cases hl
    calc (w : ℚ) / 16 * (1 - 1 / 2 ^ 53) ≤ w / 16 := mul_le_of_le_one_right (by positivity) hpart
      _ ≤ ⌈(w : ℚ) / 16⌉ := Int.le_ceil _
      _ = ((w ⌈/⌉ lateness : Nat) : Int) := by rw [ceil_eq]
  · obtain ⟨s, hs⟩ := exists_log2 hsmall
    rw [late_of_log2 hs] at hl
    split at hl
    next =>
      cases hl
      have hlow : 2 ^ (52 + (4 + s)) ≤ w := (Nat.le_log2 (ne_zero_of_log2 hs)).1 (by omega)
      have hnear := Binary64.le_roundDiv_add (n := w) (d := 2 ^ (4 + s)) (by positivity)
      have hwhole : Binary64.roundDiv w (2 ^ (4 + s)) * 2 ^ (4 + s) =
          16 * (Binary64.roundDiv w (2 ^ (4 + s)) * 2 ^ s) := by
        ring
      rw [pow_add] at hlow
      rw [hwhole] at hnear
      generalize Binary64.roundDiv w (2 ^ (4 + s)) * 2 ^ s = l at hnear ⊢
      have hshort : w * 2 ^ 53 ≤ 16 * l * 2 ^ 53 + w := by omega
      have hcast : (w : ℚ) * 2 ^ 53 ≤ 16 * l * 2 ^ 53 + w := by exact_mod_cast hshort
      rw [Int.cast_natCast]
      linarith
    next => cases hl

/-! ## The read limit -/

/-- What an adjustment is to do for a wait: whatever read limit a request has, it is given the wait,
a sixteenth of it, rounded up, and the margin, so that it outlasts the wait and the sixteenth. -/
structure Fits (a : Adjustment) (wait : Option String) (w : Nat) : Prop where
  limit (default : Option Int) :
    a.readLimit wait default = .ok (some (w + (w ⌈/⌉ lateness : Nat) + a.marginMs))
  outlasts (default : Option Int) (limit : Int) : 0 ≤ a.marginMs →
    a.readLimit wait default = .ok (some limit) → (w : ℚ) + w / lateness ≤ limit

section
variable {a : Adjustment} {wait : Option String} {w : Nat}

/-- The read limit that an adjustment gives for a wait. -/
theorem readLimit_eq (henabled : a.enabled = true) (hwait : Wait.parse wait = .ok (some w))
    (default : Option Int) :
    a.readLimit wait default = (late w).map fun l => some (w + l + a.marginMs) := by
  unfold readLimit
  rw [henabled, hwait]
  rfl

/-- A read limit is the wait, what its sixteenth comes to, and the margin. -/
theorem exists_late (henabled : a.enabled = true) (hwait : Wait.parse wait = .ok (some w))
    {default : Option Int} {limit : Int} (h : a.readLimit wait default = .ok (some limit)) :
    ∃ l, late w = .ok l ∧ limit = w + l + a.marginMs := by
  rw [readLimit_eq henabled hwait] at h
  cases hlate : late w with
  | error f =>
    rw [hlate] at h
    cases h
  | ok l =>
    rw [hlate] at h
    cases h
    exact ⟨l, rfl, rfl⟩

/-- An adjustment that gives the right read limit outlasts the wait and its sixteenth. -/
theorem Fits.of_late (henabled : a.enabled = true) (hwait : Wait.parse wait = .ok (some w))
    (hlate : late w = .ok (w ⌈/⌉ lateness : Nat)) : a.Fits wait w where
  limit default := by
    rw [readLimit_eq henabled hwait, hlate]
    rfl
  outlasts default limit hmargin hlimit := by
    rw [readLimit_eq henabled hwait, hlate] at hlimit
    cases hlimit
    have hceil : (w : ℚ) / 16 ≤ ((w ⌈/⌉ lateness : Nat) : Int) := by
      rw [← ceil_eq]
      exact Int.le_ceil _
    have hmargin : (0 : ℚ) ≤ a.marginMs := by exact_mod_cast hmargin
    push_cast [lateness] at hceil ⊢
    linarith

/-- An adjustment that gives the right read limit has the right sixteenth. -/
theorem Fits.late_eq (henabled : a.enabled = true) (hwait : Wait.parse wait = .ok (some w))
    (h : a.Fits wait w) : late w = .ok (w ⌈/⌉ lateness : Nat) := by
  obtain ⟨l, hl, hlimit⟩ := exists_late henabled hwait (h.limit none)
  rw [hl, show l = (w ⌈/⌉ lateness : Nat) by omega]

/-- An enabled adjustment fits a wait that it can read just if the sixteenth of the wait, rounded
up, is a double, and the sixteenth is not a half that is rounded down. So it fits every wait below
`2 ^ 56` milliseconds. Any limit that it sets covers the wait and its sixteenth but for a
`2 ^ 53`rd part of the latter. It sets a limit unless the sixteenth is beyond the doubles, and the
limit that a request had before makes no difference. -/
theorem fits_iff (henabled : a.enabled = true) (hwait : Wait.parse wait = .ok (some w)) :
    (a.Fits wait w ↔ Binary64.IsDouble (w ⌈/⌉ lateness) ∧ ¬Halfway w) ∧
      (w < 2 ^ 56 → a.Fits wait w) ∧
      (∀ default limit, 0 ≤ a.marginMs → a.readLimit wait default = .ok (some limit) →
        (w : ℚ) + w / lateness * (1 - 1 / 2 ^ 53) ≤ limit) ∧
      (∀ default f, a.readLimit wait default = .error f ↔
        f = .overflow ∧ Binary64.bound ≤ (w : ℚ) / lateness) ∧
      ∀ default default', a.readLimit wait default = a.readLimit wait default' := by
  have hdvd : 8 ∣ w := Dvd.dvd.trans (by norm_num) (Wait.dvd_of_parse hwait)
  have hlateness : (lateness : ℚ) = 16 := by norm_num [lateness]
  rw [hlateness]
  refine ⟨⟨?_, ?_⟩, ?_, ?_, ?_, ?_⟩
  · intro h
    exact (late_eq_iff hdvd).1 (h.late_eq henabled hwait)
  · intro h
    exact .of_late henabled hwait ((late_eq_iff hdvd).2 h)
  · intro hlt
    exact .of_late henabled hwait (late_of_lt hdvd hlt)
  · intro default limit hmargin hlimit
    obtain ⟨l, hl, rfl⟩ := exists_late henabled hwait hlimit
    have hcovers := le_late hdvd hl
    have hmargin : (0 : ℚ) ≤ a.marginMs := by exact_mod_cast hmargin
    push_cast
    linarith
  · intro default f
    rw [← late_eq_error_iff hdvd, readLimit_eq henabled hwait]
    cases late w with
    | error e => simp [Except.map]
    | ok l => simp [Except.map]
  · intro default default'
    rw [readLimit_eq henabled hwait, readLimit_eq henabled hwait]

end

/-- A wait of ten seconds fits. -/
theorem fits_iff_sample :
    (∀ default, Adjustment.readLimit {} (some "10s") default = .ok (some 12625)) ∧
      ∃ w, Wait.parse (some "10s") = .ok (some w) ∧ ({} : Adjustment).Fits (some "10s") w := by
  have hwait : Wait.parse (some "10s") = .ok (some 10000) := by decide +kernel
  have hfits : ({} : Adjustment).Fits (some "10s") 10000 := (fits_iff rfl hwait).2.1 (by norm_num)
  exact ⟨fun default => (hfits.limit default).trans (by decide +kernel), 10000, hwait, hfits⟩

/-- Every enabled adjustment fits every wait that it can read. -/
def FitsWaits : Prop :=
  ∀ (a : Adjustment) (wait : Option String) (w : Nat), a.enabled = true →
    Wait.parse wait = .ok (some w) → a.Fits wait w

/-- A wait with a sixteenth of 4503599627370562.5 milliseconds, which is rounded to even, and so
down. -/
theorem not_fitsWaits_of_half : ¬FitsWaits := by
  intro h
  have hwait : Wait.parse (some "72057594037929s") = .ok (some 72057594037929000) := by
    decide +kernel
  have hlimit := (h { marginMs := 0 } _ _ rfl hwait).limit none
  have hlow : ({ marginMs := 0 } : Adjustment).readLimit (some "72057594037929s") none =
      .ok (some 76561193665299562) := by
    decide +kernel
  rw [hlow] at hlimit
  revert hlimit
  decide +kernel

/-! ## Requests -/

/-- A read limit that can be counted in milliseconds: none, or a number of seconds the thousandfold
of which is below the bound for doubles. -/
def Countable : Limit → Prop
  | .unset => True
  | .unlimited => True
  | .seconds s => ∃ negative m e, Exact.ofFloat s = .finite negative m e ∧
      1000 * (m : ℚ) * 2 ^ e < Binary64.bound

/-- The milliseconds of a limit are counted, if they can be, and else there are two ways to fail. -/
theorem milliseconds_cases (l : Limit) :
    (∃ ms, milliseconds l = .ok ms ∧ Countable l) ∨
      ∃ f, milliseconds l = .error f ∧ ¬Countable l ∧ (f = .notANumber ∨ f = .overflow) := by
  cases l with
  | unset => exact .inl ⟨none, rfl, trivial⟩
  | unlimited => exact .inl ⟨none, rfl, trivial⟩
  | seconds s =>
    have hcount : Countable (.seconds s) ↔ (Exact.ofFloat (s * 1000)).IsFinite :=
      (Exact.isFinite_mul_thousand_iff s).symm
    have hround : milliseconds (.seconds s) =
        ((Exact.ofFloat (s * 1000)).round?.mapError ofFault).map some := rfl
    rw [hround, hcount]
    cases Exact.ofFloat (s * 1000) with
    | nan => exact .inr ⟨_, rfl, id, .inl rfl⟩
    | infinite negative => exact .inr ⟨_, rfl, id, .inr rfl⟩
    | finite negative m e => exact .inl ⟨_, rfl, trivial⟩

/-- There is nothing to adjust: the adjustment is not enabled, or the request does not wait, or not
for a time that can be read. -/
def Idle (a : Adjustment) (r : Request) : Prop :=
  a.enabled = false ∨ Wait.parse (Query.first? "wait" r.url.query) = .ok none

section
variable {a : Adjustment} {r : Request}

/-- A wait with more digits than can be read makes an adjustment fail. -/
theorem apply_of_tooLong {e : Numeral.TooLong} (henabled : a.enabled = true)
    (hwait : Wait.parse (Query.first? "wait" r.url.query) = .error e) :
    ∃ f, a.apply r = .error f := by
  have hlimit (default : Option Int) :
      a.readLimit (Query.first? "wait" r.url.query) default = .error (.tooLong e) := by
    unfold readLimit
    rw [henabled, hwait]
    rfl
  unfold apply change
  cases milliseconds (r.timeouts.getD {}).read with
  | error f => exact ⟨f, rfl⟩
  | ok ms => exact ⟨.tooLong e, by simp [bind, Except.bind, hlimit]⟩

/-- Where there is nothing to adjust, the read limit is the one there was. -/
theorem Idle.readLimit_eq (h : a.Idle r) (default : Option Int) :
    a.readLimit (Query.first? "wait" r.url.query) default = .ok default := by
  unfold readLimit
  split
  next => rfl
  next henabled =>
    rcases h with hdisabled | hwait
    · rw [hdisabled] at henabled
      exact absurd rfl henabled
    · rw [hwait]

/-- Where there is nothing to adjust, the request stays as it is, once its read limit is
counted. -/
theorem Idle.apply_eq (h : a.Idle r) :
    a.apply r = (milliseconds (r.timeouts.getD {}).read).map fun _ => r := by
  unfold apply change
  cases milliseconds (r.timeouts.getD {}).read with
  | error f => rfl
  | ok ms =>
    simp [bind, Except.bind, h.readLimit_eq, pure, Except.pure, Except.map]

end

end Adjustment

/-- The one request is the other, with at most another read limit. -/
def Request.SameButRead (r q : Request) : Prop :=
  q = r ∨ ∃ s, q = { r with timeouts := some { r.timeouts.getD {} with read := .seconds s } }

namespace Adjustment

/-- An adjustment changes nothing of a request but its read limit. Where there is nothing to adjust,
it leaves the request as it is just if the read limit can be counted in milliseconds, and else it
fails: the limit is no number, or it is too great. It fails as well for a wait with too many digits
to be read. -/
theorem apply_sameButRead (a : Adjustment) (r : Request) :
    (∀ q, a.apply r = .ok q → r.SameButRead q) ∧
      (a.Idle r → (a.apply r = .ok r ↔ Countable (r.timeouts.getD {}).read) ∧
        (∀ q, a.apply r = .ok q → q = r) ∧
        ∀ f, a.apply r = .error f → f = .notANumber ∨ f = .overflow) ∧
      (a.enabled = true → ∀ e, Wait.parse (Query.first? "wait" r.url.query) = .error e →
        ∃ f, a.apply r = .error f) := by
  refine ⟨?_, ?_, fun henabled e hwait => apply_of_tooLong henabled hwait⟩
  · intro q hq
    rcases apply_eq_ok hq with ⟨-, rfl⟩ | ⟨s, -, rfl⟩
    · exact .inl rfl
    · exact .inr ⟨s, rfl⟩
  · intro h
    rw [h.apply_eq]
    rcases milliseconds_cases (r.timeouts.getD {}).read with
      ⟨ms, hms, hcount⟩ | ⟨f, hms, hcount, hf⟩
    · rw [hms]
      refine ⟨iff_of_true rfl hcount, ?_, ?_⟩
      · intro q hq
        exact (Except.ok.inj hq).symm
      · intro f hf
        cases hf
    · rw [hms]
      refine ⟨iff_of_false ?_ hcount, ?_, ?_⟩
      · intro hr
        cases hr
      · intro q hq
        cases hq
      · intro f' hf'
        cases hf'
        exact hf

/-- The sample with a read limit. -/
def sampleLimited (l : Limit) : Request :=
  { Request.sample "a" with timeouts := some { read := l } }

/-- A request with a read limit of five seconds, and an adjustment that is not enabled. -/
theorem apply_sameButRead_sample :
    Idle { enabled := false } (sampleLimited (.seconds 5)) ∧
      Adjustment.apply { enabled := false } (sampleLimited (.seconds 5)) =
        .ok (sampleLimited (.seconds 5)) := by
  have hidle : Idle { enabled := false } (sampleLimited (.seconds 5)) := .inl rfl
  have hfive : Exact.ofFloat 5 = .finite false (5 * 2 ^ 50) (-50) := by decide +kernel
  have hbelow : 1000 * ((5 * 2 ^ 50 : Nat) : ℚ) * 2 ^ (-50 : Int) < Binary64.bound :=
    calc 1000 * ((5 * 2 ^ 50 : Nat) : ℚ) * 2 ^ (-50 : Int) = 5000 := by norm_num
      _ < 2 ^ (13 : Int) := by norm_num
      _ ≤ 2 ^ (1023 : Int) := zpow_le_zpow_right₀ one_le_two (by norm_num)
      _ ≤ Binary64.bound := Binary64.le_bound.1
  have hcount : Countable (.seconds 5) := ⟨_, _, _, hfive, hbelow⟩
  exact ⟨hidle, ((apply_sameButRead _ _).2.1 hidle).1.2 hcount⟩

/-- An adjustment changes nothing of a request but its read limit, and nothing at all where there is
nothing to adjust. -/
def KeepsRequests : Prop :=
  ∀ (a : Adjustment) (r : Request),
    (∀ q, a.apply r = .ok q → r.SameButRead q) ∧ (a.Idle r → a.apply r = .ok r)

/-- A read limit without end is counted in milliseconds, though the adjustment is not enabled. -/
theorem not_keepsRequests_of_infinite : ¬KeepsRequests := by
  intro h
  have hidle : Idle { enabled := false } (sampleLimited (.seconds (Binary64.infinity false))) :=
    .inl rfl
  have hms : milliseconds (.seconds (Binary64.infinity false)) = .error .overflow := by
    decide +kernel
  have hlimit : ((sampleLimited (.seconds (Binary64.infinity false))).timeouts.getD {}).read =
      .seconds (Binary64.infinity false) := rfl
  have hsame := (h _ _).2 hidle
  rw [hidle.apply_eq, hlimit, hms] at hsame
  cases hsame

end Adjustment

end BlockingQuery
