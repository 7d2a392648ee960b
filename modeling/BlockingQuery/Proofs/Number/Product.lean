import BlockingQuery.Proofs.Number.Binary64

/-!
# Products of doubles

Doubles are multiplied in an unpacked form: the mantissas as natural numbers, the product rounded to
53 bits, and the result packed. `Exact.ofFloat_eq_ofUnpacked` says that the unpacked form is read as
the double is, and `Binary64.roundWithAccuracy_exact` that rounding it is `Binary64.roundDiv`, done
once. So a product is a number just if the exact one is below the bound for doubles
(`Exact.isFinite_mul_iff`).
-/

namespace BlockingQuery

open Float.Model (Format UnpackedFloat)
open Float.Model.UnpackedFloat

namespace Exact

/-! ## The unpacked form -/

/-- The number that an unpacked double stands for. -/
def ofUnpacked : UnpackedFloat → Exact
  | .notANumber => .nan
  | .infinity s => .infinite (s == .negative)
  | .zero s => .finite (s == .negative) 0 (-1074)
  | .finite s m e _ => .finite (s == .negative) m e

/-- The sign of a double is its first bit. -/
theorem sign_unpackSign (b : BitVec 64) :
    (Sign.ofBitVec (@unpackSign .binary64 b) == .negative) =
      decide (2 ^ 63 ≤ b.toNat) := by
  have hbit : (@unpackSign .binary64 b).toNat = b.toNat / 2 ^ 63 % 2 := by
    rw [unpackSign_def]
    simp [BitVec.extractLsb'_toNat, Nat.shiftRight_eq_div_pow]
  have hlt : b.toNat < 2 ^ 64 := b.isLt
  unfold Sign.ofBitVec
  by_cases hzero : @unpackSign .binary64 b = 0#1
  · have hlow : ¬2 ^ 63 ≤ b.toNat := by
      rw [hzero, BitVec.toNat_ofNat] at hbit
      omega
    rw [if_pos hzero, decide_eq_false hlow]
    rfl
  · have hone : (@unpackSign .binary64 b).toNat ≠ 0 := fun h =>
      hzero (BitVec.eq_of_toNat_eq h)
    have hhigh : 2 ^ 63 ≤ b.toNat := by omega
    rw [if_neg hzero, decide_eq_true hhigh]
    rfl

/-- What a double stands for, by the fields that it is unpacked from. -/
theorem ofFloat_eq (x : Float) :
    ofFloat x =
      let b := x.toBits.toBitVec
      let negative := Sign.ofBitVec (@unpackSign .binary64 b) == .negative
      let field := (@unpackExponent .binary64 b).toNat
      let fraction := (@unpackMantissa .binary64 b).toNat
      if field = 2047 then (if fraction = 0 then .infinite negative else .nan)
      else if field = 0 then .finite negative fraction (-1074)
      else .finite negative (2 ^ 52 + fraction) ((field : Int) - 1075) := by
  dsimp only
  rw [sign_unpackSign, Binary64.toNat_unpackExponent, Binary64.toNat_unpackMantissa]
  rfl

/-- The mantissa of a normal number, with the bit that is not written. -/
theorem toNat_append_unpackMantissa (b : BitVec 64) :
    (1#1 ++ @unpackMantissa .binary64 b).toNat = 2 ^ 52 + (@unpackMantissa .binary64 b).toNat := by
  have hor := Nat.two_pow_add_eq_or_of_lt (@unpackMantissa .binary64 b).isLt 1
  rw [Nat.mul_one] at hor
  rw [BitVec.toNat_append, hor]
  rfl

/-- A double and its unpacked form stand for the same. -/
theorem ofFloat_eq_ofUnpacked (x : Float) : ofFloat x = ofUnpacked x.toModel.unpack := by
  change ofFloat x = ofUnpacked (unpack .binary64 x.toBits.toBitVec)
  rw [ofFloat_eq]
  dsimp only
  generalize x.toBits.toBitVec = b
  have hones (v : BitVec 11) : v.toNat = 2047 ↔ v = -1#11 := by
    rw [← BitVec.toNat_inj]
    rfl
  have hzero {n : Nat} (v : BitVec n) : v.toNat = 0 ↔ v = 0#n := by
    rw [← BitVec.toNat_inj, BitVec.toNat_ofNat, Nat.zero_mod]
  fun_cases unpack with
  | case1 _ _ _ _ hexponent hmantissa =>
    rw [if_pos ((hones _).2 hexponent), if_pos ((hzero _).2 hmantissa)]
    rfl
  | case2 _ _ hexponent hmantissa =>
    rw [if_pos ((hones _).2 hexponent), if_neg (mt (hzero _).1 hmantissa)]
    rfl
  | case3 _ _ _ _ hnumber hexponent hmantissa =>
    rw [if_neg (mt (hones _).1 hnumber), if_pos ((hzero _).2 hexponent), (hzero _).2 hmantissa]
    rfl
  | case4 _ _ _ _ _ hnumber hexponent hmantissa =>
    rw [if_neg (mt (hones _).1 hnumber), if_pos ((hzero _).2 hexponent)]
    unfold ofUnpacked
    congr 1
    change (-1074 : Int) = ((@unpackExponent .binary64 b).toNat : Int) - 1075 + 1
    rw [(hzero _).2 hexponent]
    rfl
  | case5 _ _ _ _ _ hnumber hexponent =>
    rw [if_neg (mt (hones _).1 hnumber), if_neg (mt (hzero _).1 hexponent),
      ← toNat_append_unpackMantissa]
    rfl

/-! ## Packing -/

/-- A double that stands for a number. -/
def IsFinite : Exact → Prop
  | .finite .. => True
  | .nan => False
  | .infinite _ => False

/-- What an unpacked double stands for after it is packed. -/
def repacked (u : UnpackedFloat) : Exact :=
  ofUnpacked (unpack .binary64 (u.pack .binary64))

/-- A product of doubles is worked out unpacked, and packed. -/
theorem ofFloat_mul (x y : Float) :
    ofFloat (x * y) = repacked (mul .binary64 x.toModel.unpack y.toModel.unpack) := by
  rw [ofFloat_eq_ofUnpacked]
  rfl

@[simp] theorem repacked_notANumber : repacked .notANumber = .nan := by
  rw [repacked, pack, unpack_packedNaN]
  rfl

/-- A double is a number unless its exponent field has only ones. -/
theorem isFinite_unpack_iff (b : BitVec 64) :
    (ofUnpacked (unpack .binary64 b)).IsFinite ↔
      @unpackExponent .binary64 b ≠ -1#11 := by
  fun_cases unpack with
  | case1 _ _ _ _ hexponent => exact ⟨False.elim, fun h => h hexponent⟩
  | case2 _ _ hexponent => exact ⟨False.elim, fun h => h hexponent⟩
  | case3 _ _ _ _ hexponent => exact ⟨fun _ => hexponent, fun _ => trivial⟩
  | case4 _ _ _ _ _ hexponent => exact ⟨fun _ => hexponent, fun _ => trivial⟩
  | case5 _ _ _ _ _ hexponent => exact ⟨fun _ => hexponent, fun _ => trivial⟩

theorem not_isFinite_repacked_infinity (s : Sign) : ¬(repacked (.infinity s)).IsFinite := by
  rw [repacked, isFinite_unpack_iff, pack, packedInfinity, unpackExponent_packComponents]
  exact fun h => h rfl

theorem isFinite_repacked_zero (s : Sign) : (repacked (.zero s)).IsFinite := by
  rw [repacked, isFinite_unpack_iff, pack, packedZero, unpackExponent_packComponents]
  decide

theorem isFinite_repacked_finite (s : Sign) {m : Nat} {e : Int} (hm : 0 < m) :
    (repacked (.finite s m e hm)).IsFinite ↔ e < 972 := by
  have hbiased : 2 ^ 11 ≤ (e + 1023 + 52).toNat + 1 ↔ 972 ≤ e := by omega
  rw [repacked, isFinite_unpack_iff]
  unfold pack
  dsimp only
  split
  next hbig =>
    rw [packedInfinity, unpackExponent_packComponents]
    exact ⟨fun h => absurd rfl h, fun h => absurd (hbiased.1 hbig) (not_le.2 h)⟩
  next hsmall =>
    have he : e < 972 := not_le.1 (mt hbiased.2 hsmall)
    refine ⟨fun _ => he, fun _ => ?_⟩
    split
    next =>
      rw [unpackExponent_packComponents]
      intro hones
      have hfield : (e + 1023 + 52).toNat % 2048 = 2047 := congrArg BitVec.toNat hones
      omega
    next =>
      rw [unpackExponent_packComponents]
      decide

end Exact

namespace Binary64

/-! ## Rounding -/

/-- Bits that are shifted out of a mantissa leave the quotient, and with it whether the remainder is
less than a half, a half or more. -/
theorem shiftRight_eq (n k : Nat) :
    (⟨n, false, false⟩ : ExtendedMantissa) >>> k =
      ⟨n / 2 ^ k, decide (2 ^ k ≤ 2 * (n % 2 ^ k)),
        decide (2 * (n % 2 ^ k) ≠ 0 ∧ 2 * (n % 2 ^ k) ≠ 2 ^ k)⟩ := by
  change k.repeat ExtendedMantissa.shiftRightOne _ = _
  induction k with
  | zero => simp [Nat.repeat, Nat.mod_one]
  | succ k ih =>
    have hrest : n % 2 ^ (k + 1) = n % 2 ^ k + 2 ^ k * (n / 2 ^ k % 2) := Nat.mod_pow_succ
    have hlt : n % 2 ^ k < 2 ^ k := Nat.mod_lt n (by positivity)
    rw [Nat.repeat, ih, ExtendedMantissa.shiftRightOne, hrest, Nat.pow_succ,
      ← Nat.div_div_eq_div_mul]
    dsimp only
    generalize n % 2 ^ k = r at hlt ⊢
    generalize n / 2 ^ k = q
    generalize 2 ^ k = d at hlt ⊢
    -- the last bit of the quotient says whether the remainder now comes to a half
    rcases Nat.mod_two_eq_zero_or_one q with hq | hq
    all_goals
      rw [hq]
      congr 1
      all_goals
        rw [Bool.eq_iff_iff]
        simp
        omega

/-- A mantissa is rounded as a quotient is. -/
theorem roundedMantissa_shiftRight (n k : Nat) :
    ((⟨n, false, false⟩ : ExtendedMantissa) >>> k).roundedMantissa = roundDiv n (2 ^ k) := by
  have hpos : 0 < 2 ^ k := by positivity
  rw [shiftRight_eq]
  unfold roundDiv
  dsimp only
  rcases Nat.lt_trichotomy (2 * (n % 2 ^ k)) (2 ^ k) with h | h | h
  · rw [if_pos h, decide_eq_false (not_le.2 h)]
    cases decide (2 * (n % 2 ^ k) ≠ 0 ∧ 2 * (n % 2 ^ k) ≠ 2 ^ k) <;> rfl
  · have hrest : ¬(2 * (n % 2 ^ k) ≠ 0 ∧ 2 * (n % 2 ^ k) ≠ 2 ^ k) := by omega
    rw [if_neg (by omega), if_neg (by omega), decide_eq_true h.ge, decide_eq_false hrest]
    rfl
  · have hrest : 2 * (n % 2 ^ k) ≠ 0 ∧ 2 * (n % 2 ^ k) ≠ 2 ^ k := by omega
    rw [if_neg (by omega), if_pos h, decide_eq_true h.le, decide_eq_true hrest]
    rfl

/-- The number of bits of `n · 2 ^ e` for which a double has no place. -/
def surplus (n : Nat) (e : Int) : Nat :=
  (max ((n.log2 : Int) + e - 52) (-1074) - e).toNat

theorem shiftToTargetExponent_eq (n : Nat) (e : Int) :
    shiftToTargetExponent .binary64 n e .exact =
      ((⟨n, false, false⟩ : ExtendedMantissa) >>> surplus n e, e + surplus n e) := by
  have htarget : Format.binary64.targetExponent (Float.Model.totalExponent n e) =
      max ((n.log2 : Int) + e - 52) (-1074) := by
    change max ((n.log2 : Int) + 1 + e - 53) (-1074) = _
    omega
  unfold shiftToTargetExponent
  rw [htarget]
  rfl

/-- A number is rounded once, and shifted by one bit more if the mantissa carries. -/
theorem roundWithAccuracy_exact (s : Sign) (n : Nat) (e : Int) :
    roundWithAccuracy .binary64 s n e .exact =
      let k := surplus n e
      let m := roundDiv n (2 ^ k)
      let l := surplus m (e + k)
      if h : m / 2 ^ l = 0 then .zero s
      else .finite s (m / 2 ^ l) (e + k + l) (Nat.pos_of_ne_zero h) := by
  unfold roundWithAccuracy
  simp only [shiftToTargetExponent_eq, roundedMantissa_shiftRight]
  simp only [shiftRight_eq]

/-- Above the least exponent, a double has no place for more than 53 bits. -/
theorem surplus_of_le {e : Int} (he : -1074 ≤ e) (n : Nat) : surplus n e = n.log2 - 52 := by
  unfold surplus
  omega

/-- A number with 53 bits or more rounds to a number if it is below the bound, and else to
infinity. -/
theorem isFinite_repacked_round (s : Sign) {n : Nat} (e : Int) (hn : 2 ^ 52 ≤ n) :
    (Exact.repacked (roundWithAccuracy .binary64 s n e .exact)).IsFinite ↔
      (n : ℚ) * 2 ^ e < bound := by
  have hzero : n ≠ 0 := (Nat.two_pow_pos 52).trans_le hn |>.ne'
  have hlog : 52 ≤ n.log2 := (Nat.le_log2 hzero).2 hn
  obtain ⟨hless, hmore⟩ := lt_bound_of_log2 hzero (e := e)
  have hk : (surplus n e : Int) = max ((n.log2 : Int) + e - 52) (-1074) - e := by
    unfold surplus
    omega
  rw [roundWithAccuracy_exact]
  dsimp only
  generalize surplus n e = k at hk ⊢
  have hmost : roundDiv n (2 ^ k) ≤ 2 ^ 53 := by
    have hlt : n < 2 ^ (53 + k) := (Nat.log2_lt hzero).1 (by omega)
    rw [pow_add] at hlt
    exact roundDiv_le (by positivity) hlt.le
  rw [surplus_of_le (by omega)]
  by_cases hbelow : (n.log2 : Int) + e < 1023
  · refine ⟨fun _ => hless hbelow, fun _ => ?_⟩
    split
    next => exact Exact.isFinite_repacked_zero s
    next hm =>
      rw [Exact.isFinite_repacked_finite]
      have hpos : roundDiv n (2 ^ k) ≠ 0 := fun h => hm (by rw [h, Nat.zero_div])
      have hmlog : (roundDiv n (2 ^ k)).log2 < 54 := (Nat.log2_lt hpos).2 (by omega)
      omega
  · have hleast : 2 ^ 52 ≤ roundDiv n (2 ^ k) := (roundDiv_of_log2 hzero (by omega)).1
    have hm : roundDiv n (2 ^ k) / 2 ^ ((roundDiv n (2 ^ k)).log2 - 52) ≠ 0 := by
      refine (Nat.div_pos ?_ (by positivity)).ne'
      exact (Nat.pow_le_pow_right two_pos (Nat.sub_le ..)).trans (Nat.log2_self_le (by omega))
    rw [dif_neg hm, Exact.isFinite_repacked_finite]
    have hmlog : (roundDiv n (2 ^ k)).log2 < 53 ↔ roundDiv n (2 ^ k) < 2 ^ 53 :=
      Nat.log2_lt (by omega)
    rcases (show 1023 ≤ (n.log2 : Int) + e by omega).eq_or_lt with h | h
    · obtain rfl : e = 971 - k := by omega
      rw [lt_bound_iff, ← hmlog]
      omega
    · refine ⟨fun hlt => absurd hlt ?_, fun hlt => absurd hlt (hmore h).not_gt⟩
      omega

end Binary64

namespace Exact

/-! ## Products -/

/-- The form of a double whose mantissa is not zero. -/
theorem exists_unpack_of_finite {x : Float} {negative : Bool} {m : Nat} {e : Int} (hm : 0 < m)
    (h : ofFloat x = .finite negative m e) : ∃ s, x.toModel.unpack = .finite s m e hm := by
  rw [ofFloat_eq_ofUnpacked] at h
  cases hx : x.toModel.unpack with
  | notANumber => rw [hx] at h; cases h
  | infinity s => rw [hx] at h; cases h
  | zero s =>
    rw [hx] at h
    cases h
    exact absurd hm (lt_irrefl 0)
  | finite s m' e' hm' =>
    rw [hx] at h
    cases h
    exact ⟨s, rfl⟩

/-- A double times one with a mantissa of 53 bits is a number just if the double is one and the
exact product is below the bound. -/
theorem isFinite_mul_iff {y : Float} {negative : Bool} {m : Nat} {e : Int}
    (hy : ofFloat y = .finite negative m e) (hm : 2 ^ 52 ≤ m) (x : Float) :
    (ofFloat (x * y)).IsFinite ↔ ∃ negative' m' e', ofFloat x = .finite negative' m' e' ∧
      ((m' * m : Nat) : ℚ) * 2 ^ (e' + e) < Binary64.bound := by
  obtain ⟨s, hs⟩ := exists_unpack_of_finite ((Nat.two_pow_pos 52).trans_le hm) hy
  rw [ofFloat_mul, hs, ofFloat_eq_ofUnpacked x]
  cases x.toModel.unpack with
  | notANumber =>
    rw [mul, repacked_notANumber]
    refine ⟨False.elim, fun ⟨_, _, _, hx, _⟩ => ?_⟩
    cases hx
  | infinity s' =>
    refine ⟨fun h => absurd h (not_isFinite_repacked_infinity _), fun ⟨_, _, _, hx, _⟩ => ?_⟩
    cases hx
  | zero s' =>
    refine ⟨fun _ => ⟨_, 0, -1074, rfl, ?_⟩, fun _ => isFinite_repacked_zero _⟩
    rw [Nat.zero_mul, Nat.cast_zero, zero_mul]
    exact lt_of_lt_of_le (by positivity) Binary64.le_bound.1
  | finite s' m' e' hm' =>
    have hmany : 2 ^ 52 ≤ m' * m := hm.trans (Nat.le_mul_of_pos_left m hm')
    rw [mul, Binary64.isFinite_repacked_round _ _ hmany]
    refine ⟨fun h => ⟨_, m', e', rfl, h⟩, fun ⟨_, _, _, hx, h⟩ => ?_⟩
    cases hx
    exact h

/-- The thousandfold of a double is finite if and only if the double is, and the product below the
bound. -/
theorem isFinite_mul_thousand_iff (x : Float) :
    (ofFloat (x * 1000)).IsFinite ↔ ∃ negative m e, ofFloat x = .finite negative m e ∧
      1000 * (m : ℚ) * 2 ^ e < Binary64.bound := by
  have hy : ofFloat 1000 = .finite false (1000 * 2 ^ 43) (-43) := by decide +kernel
  have hvalue (m : Nat) (e : Int) :
      ((m * (1000 * 2 ^ 43) : Nat) : ℚ) * 2 ^ (e + -43) = 1000 * (m : ℚ) * 2 ^ e := by
    rw [zpow_add₀ two_ne_zero]
    push_cast
    generalize (2 : ℚ) ^ e = c
    norm_num
    ring
  rw [isFinite_mul_iff hy (by norm_num)]
  simp only [hvalue]

end Exact

end BlockingQuery
