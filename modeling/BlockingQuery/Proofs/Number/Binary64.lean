import Mathlib
import BlockingQuery.Number.Binary64

/-!
# Doubles as numbers

A double is put together from a sign, an exponent and a mantissa (`Binary64.pack`), and taken apart
again it is the number that they stand for (`Binary64.ofFloat_pack`). A quotient is rounded to the
nearest integer, a tie to the even one: `Binary64.le_roundDiv_iff` says what that is from below and
from above. So it is known which double a quotient by a power of two becomes: one with a mantissa of
53 bits, which is the quotient rounded at its exponent (`Binary64.ofRatio?_of_log2_le`,
`Binary64.ofRatio?_of_le_log2`).
-/

namespace BlockingQuery

open Float.Model Float.Model.UnpackedFloat

/-- Powers of two are powers. -/
theorem twoTo_eq (n : Nat) : twoTo n = 2 ^ n :=
  rfl

namespace Binary64

/-! ## Bits -/

/-- The exponent field of a double is made of the eleven bits above the fraction. -/
theorem toNat_unpackExponent (b : BitVec 64) :
    (@unpackExponent .binary64 b).toNat = b.toNat / 2 ^ 52 % 2048 := by
  rw [unpackExponent_def]
  simp [BitVec.extractLsb'_toNat, Nat.shiftRight_eq_div_pow]

/-- The fraction of a double is made of its lower 52 bits. -/
theorem toNat_unpackMantissa (b : BitVec 64) :
    (@unpackMantissa .binary64 b).toNat = b.toNat % 2 ^ 52 := by
  rw [unpackMantissa_def]
  simp [BitVec.extractLsb'_toNat]

/-- Bits that stand for a number are kept as they are. -/
theorem toNat_toBits_ofBits {n : Nat} (hn : n < 2 ^ 64) (hfield : n / 2 ^ 52 % 2048 ≠ 2047) :
    (Float.ofBits (UInt64.ofNat n)).toBits.toNat = n := by
  have hb : (UInt64.ofNat n).toBitVec.toNat = n := UInt64.toNat_ofNat_of_lt' hn
  have hnumber : @isNaNBits .binary64 (UInt64.ofNat n).toBitVec = false := by
    rw [isNaNBits, decide_eq_false_iff_not]
    rintro ⟨hones, -⟩
    have hexponent := congrArg BitVec.toNat hones
    rw [toNat_unpackExponent, hb] at hexponent
    exact hfield hexponent
  have hbits : (Float.ofBits (UInt64.ofNat n)).toBits.toBitVec = (UInt64.ofNat n).toBitVec := by
    change (unpack Format.binary64 (UInt64.ofNat n).toBitVec).pack Format.binary64 = _
    rw [pack_unpack, hnumber]
    rfl
  rw [← UInt64.toNat_toBitVec, hbits, hb]

/-- The number that a sign, a field for the exponent and a fraction stand for. -/
theorem ofFloat_ofBits (negative : Bool) (field fraction : Nat) (hfield : field < 2047)
    (hfraction : fraction < 2 ^ 52) :
    Exact.ofFloat (Float.ofBits (UInt64.ofNat
      ((if negative then twoTo 63 else 0) + (field * twoTo 52 + fraction)))) =
      if field = 0 then .finite negative fraction (-1074)
      else .finite negative (twoTo 52 + fraction) (field - 1075) := by
  have hsign : ((if negative then twoTo 63 else 0) : Nat) = 2 ^ 63 * negative.toNat := by
    cases negative <;> rfl
  have hle : negative.toNat ≤ 1 := Bool.toNat_le _
  rw [hsign, twoTo_eq]
  have hbits := toNat_toBits_ofBits (n := 2 ^ 63 * negative.toNat + (field * 2 ^ 52 + fraction))
    (by omega) (by omega)
  have hnegative : decide (2 ^ 63 ≤ 2 ^ 63 * negative.toNat + (field * 2 ^ 52 + fraction)) =
      negative := by
    cases negative with
    | false =>
      rw [Bool.toNat_false, decide_eq_false_iff_not]
      omega
    | true =>
      rw [Bool.toNat_true, decide_eq_true_eq]
      omega
  have hexponent :
      (2 ^ 63 * negative.toNat + (field * 2 ^ 52 + fraction)) / 2 ^ 52 % 2048 = field := by
    omega
  have hrest : (2 ^ 63 * negative.toNat + (field * 2 ^ 52 + fraction)) % 2 ^ 52 = fraction := by
    omega
  unfold Exact.ofFloat
  rw [hbits, twoTo_eq, twoTo_eq]
  dsimp only
  rw [hnegative, hexponent, hrest, if_neg (by omega)]

/-! ## Mantissa and exponent -/

/-- A double stands for the number that it is put together from. -/
theorem ofFloat_pack (negative : Bool) {m : Nat} {e : Int} (hm : m < 2 ^ 53) (hlow : -1074 ≤ e)
    (hhigh : e ≤ 971) (hsmall : m < 2 ^ 52 → e = -1074) :
    Exact.ofFloat (pack negative m e) = .finite negative m e := by
  unfold pack
  dsimp only
  rw [twoTo_eq 52]
  by_cases h : m < 2 ^ 52
  · have hzero := ofFloat_ofBits negative 0 m (by omega) h
    rw [Nat.zero_mul, Nat.zero_add, if_pos rfl] at hzero
    rw [if_pos h, hzero, hsmall h]
  · have hfield : (e + 1075).toNat ≠ 0 := by omega
    have hmantissa : 2 ^ 52 + (m - 2 ^ 52) = m := by omega
    have hexponent : ((e + 1075).toNat : Int) - 1075 = e := by omega
    have hnormal := ofFloat_ofBits negative (e + 1075).toNat (m - 2 ^ 52) (by omega)
      (by omega)
    rw [if_neg hfield, twoTo_eq 52, hmantissa, hexponent] at hnormal
    rw [if_neg h, hnormal]

/-- A mantissa of one bit too many carries into the exponent. -/
theorem pack_carry (negative : Bool) {e : Int} (hlow : -1074 ≤ e) :
    pack negative (2 ^ 53) e = pack negative (2 ^ 52) (e + 1) := by
  have hcarry : (e + 1075).toNat * 2 ^ 52 + (2 ^ 53 - 2 ^ 52) =
      (e + 1 + 1075).toNat * 2 ^ 52 + (2 ^ 52 - 2 ^ 52) := by
    omega
  have hmany : ¬2 ^ 53 < 2 ^ 52 := by decide
  unfold pack
  dsimp only
  rw [twoTo_eq 52, if_neg hmany, if_neg (lt_irrefl _), hcarry]

/-! ## Rounding -/

/-- What a quotient is rounded to is no less than `c` if the quotient is above `c` by no more than a
half below it, a tie going to the even integer. -/
theorem le_roundDiv_iff {n d : Nat} (hd : 0 < d) (c : Nat) :
    c ≤ roundDiv n d ↔ 2 * (c * d) < 2 * n + d ∨ 2 * (c * d) = 2 * n + d ∧ c % 2 = 0 := by
  have hdiv : n / d * d + n % d = n := Nat.div_add_mod' n d
  have hmod : n % d < d := Nat.mod_lt n hd
  unfold roundDiv
  generalize n / d = q at hdiv ⊢
  generalize n % d = r at hdiv hmod ⊢
  dsimp only
  rcases Nat.lt_trichotomy c (q + 1) with hc | rfl | hc
  · have hle : c * d ≤ q * d := Nat.mul_le_mul_right d (by omega)
    split_ifs <;> omega
  · rw [Nat.add_mul, Nat.one_mul]
    split_ifs <;> omega
  · have hle : (q + 2) * d ≤ c * d := Nat.mul_le_mul_right d (by omega)
    rw [Nat.add_mul] at hle
    split_ifs <;> omega

/-- What is no less than an integer is not rounded below it. -/
theorem le_roundDiv {n d c : Nat} (hd : 0 < d) (h : c * d ≤ n) : c ≤ roundDiv n d := by
  rw [le_roundDiv_iff hd]
  omega

/-- What is no more than an integer is not rounded above it. -/
theorem roundDiv_le {n d c : Nat} (hd : 0 < d) (h : n ≤ c * d) : roundDiv n d ≤ c := by
  rw [← not_lt, Nat.lt_iff_add_one_le, le_roundDiv_iff hd, Nat.add_mul]
  omega

/-- A quotient is above what it is rounded to by no more than a half. -/
theorem le_roundDiv_add {n d : Nat} (hd : 0 < d) : 2 * n ≤ 2 * (roundDiv n d * d) + d := by
  have hnext := (le_roundDiv_iff (n := n) hd (roundDiv n d + 1)).not.1 (by omega)
  rw [Nat.add_mul, Nat.one_mul] at hnext
  omega

/-- A mantissa carries if no more than a half is missing to the next power of two. -/
theorem two_pow_succ_le_roundDiv_iff {n d : Nat} (hd : 0 < d) (b : Nat) :
    2 ^ (b + 1) ≤ roundDiv n d ↔ 2 * (2 ^ (b + 1) * d) ≤ 2 * n + d := by
  have heven : 2 ^ (b + 1) % 2 = 0 := by rw [Nat.pow_succ, Nat.mul_mod_left]
  rw [le_roundDiv_iff hd, le_iff_lt_or_eq, heven]
  simp only [and_true]

/-- A quotient without remainder is what it is. -/
theorem roundDiv_of_dvd {n d : Nat} (hd : 0 < d) (h : d ∣ n) : roundDiv n d = n / d := by
  have hmod : n % d = 0 := Nat.mod_eq_zero_of_dvd h
  rw [roundDiv, hmod, if_pos (by omega)]

/-! ## Quotients by powers of two -/

/-- A quotient by a power of two has the exponent that leaves 53 bits, or the least one. -/
theorem exponent_two_pow {n : Nat} (hn : n ≠ 0) (j : Nat) :
    exponent n (2 ^ j) = max ((n.log2 : Int) - j - 52) (-1074) := by
  have hlow := Nat.log2_self_le hn
  unfold exponent
  rw [Nat.log2_two_pow]
  -- at the exponent below, the quotient has 54 bits
  have hmany : ¬(scale n (2 ^ j) ((n.log2 : Int) - j - 53)).1 /
      (scale n (2 ^ j) ((n.log2 : Int) - j - 53)).2 < twoTo 53 := by
    unfold scale
    split
    next hpos =>
      dsimp only
      rw [not_lt, twoTo_eq, twoTo_eq, Nat.le_div_iff_mul_le (by positivity), ← pow_add, ← pow_add]
      refine le_trans (Nat.pow_le_pow_right (by decide) ?_) hlow
      omega
    next hneg =>
      dsimp only
      rw [not_lt, twoTo_eq, twoTo_eq, Nat.le_div_iff_mul_le (by positivity), ← pow_add]
      refine le_trans ?_ (Nat.mul_le_mul_right _ hlow)
      rw [← pow_add]
      refine Nat.pow_le_pow_right (by decide) ?_
      omega
  dsimp only
  rw [if_neg hmany]
  congr 1
  omega

/-- The double nearest to a quotient by a power of two that has no more than 53 bits before the
point. -/
theorem ofRatio?_of_log2_le (negative : Bool) {n j s : Nat} (hn : n ≠ 0) (hs : n.log2 + s = j + 52)
    (hlow : s ≤ 1074) :
    ofRatio? negative n (2 ^ j) =
      some (pack negative (roundDiv (n * 2 ^ s) (2 ^ j)) (-(s : Int))) := by
  have hexponent : exponent n (2 ^ j) = -(s : Int) := by
    rw [exponent_two_pow hn]
    omega
  have hscale : scale n (2 ^ j) (-(s : Int)) = (n * 2 ^ s, 2 ^ j) := by
    unfold scale
    rw [neg_neg, Int.toNat_natCast, twoTo_eq]
    split
    next hzero =>
      obtain rfl : s = 0 := by omega
      simp
    next => rfl
  unfold ofRatio?
  rw [if_neg hn, hexponent]
  dsimp only
  rw [hscale, if_neg (by omega)]

/-- Rounded to `b + 1` bits, a number has a mantissa of so many bits, or one that carries. -/
theorem roundDiv_of_log2 {n k b : Nat} (hn : n ≠ 0) (hk : n.log2 = k + b) :
    2 ^ b ≤ roundDiv n (2 ^ k) ∧ roundDiv n (2 ^ k) ≤ 2 ^ (b + 1) := by
  have hpos : 0 < 2 ^ k := by positivity
  have hlow : 2 ^ (b + k) ≤ n := by
    rw [Nat.add_comm, ← hk]
    exact Nat.log2_self_le hn
  have hhigh : n < 2 ^ (b + 1 + k) := (Nat.log2_lt hn).1 (by omega)
  rw [pow_add] at hlow hhigh
  exact ⟨le_roundDiv hpos hlow, roundDiv_le hpos hhigh.le⟩

/-! ## The greatest double -/

/-- The middle between the greatest double and the next power of two. From there on, numbers are
rounded to infinity. -/
def bound : ℚ :=
  (2 ^ 54 - 1) * 2 ^ 970

/-- The bound has 1024 bits. -/
theorem le_bound : (2 : ℚ) ^ (1023 : Int) ≤ bound ∧ bound < 2 ^ (1024 : Int) := by
  have hlow : (2 : ℚ) ^ (1023 : Int) = 2 ^ 53 * 2 ^ 970 := by
    rw [← pow_add]
    rfl
  have hhigh : (2 : ℚ) ^ (1024 : Int) = 2 ^ 54 * 2 ^ 970 := by
    rw [← pow_add]
    rfl
  have hpos : (0 : ℚ) < 2 ^ 970 := by positivity
  rw [bound, hlow, hhigh, mul_le_mul_iff_left₀ hpos, mul_lt_mul_iff_left₀ hpos]
  norm_num

/-- What the number of bits says of a number. -/
theorem zpow_log2_le {n : Nat} (hn : n ≠ 0) (e : Int) :
    (2 : ℚ) ^ ((n.log2 : Int) + e) ≤ n * 2 ^ e ∧
      (n : ℚ) * 2 ^ e < 2 ^ ((n.log2 : Int) + 1 + e) := by
  have hlow : (2 : ℚ) ^ n.log2 ≤ n := by exact_mod_cast Nat.log2_self_le hn
  have hhigh : (n : ℚ) < 2 ^ (n.log2 + 1) := by exact_mod_cast Nat.lt_log2_self
  have hpos : (0 : ℚ) < 2 ^ e := by positivity
  rw [zpow_add₀ two_ne_zero, zpow_add₀ two_ne_zero, zpow_natCast, ← Nat.cast_succ, zpow_natCast]
  exact ⟨mul_le_mul_of_nonneg_right hlow hpos.le, mul_lt_mul_of_pos_right hhigh hpos⟩

/-- A number with fewer bits than the bound is below it, and one with more is above it. -/
theorem lt_bound_of_log2 {n : Nat} (hn : n ≠ 0) {e : Int} :
    ((n.log2 : Int) + e < 1023 → (n : ℚ) * 2 ^ e < bound) ∧
      (1023 < (n.log2 : Int) + e → bound < (n : ℚ) * 2 ^ e) := by
  obtain ⟨hlow, hhigh⟩ := zpow_log2_le hn e
  constructor
  · intro h
    refine hhigh.trans_le (le_trans ?_ le_bound.1)
    exact zpow_le_zpow_right₀ one_le_two (by omega)
  · intro h
    refine le_bound.2.trans_le (le_trans ?_ hlow)
    exact zpow_le_zpow_right₀ one_le_two (by omega)

/-- A number with as many bits is below the bound unless its mantissa carries. -/
theorem lt_bound_iff (n k : Nat) :
    (n : ℚ) * 2 ^ ((971 : Int) - k) < bound ↔ roundDiv n (2 ^ k) < 2 ^ 53 := by
  have hpos : (0 : ℚ) < 2 ^ k := by positivity
  have hcarry : roundDiv n (2 ^ k) < 2 ^ 53 ↔ 2 * n + 2 ^ k < 2 ^ 54 * 2 ^ k := by
    rw [← not_le, two_pow_succ_le_roundDiv_iff (by positivity)]
    omega
  have hcast : 2 * n + 2 ^ k < 2 ^ 54 * 2 ^ k ↔ (2 * n + 2 ^ k : ℚ) < 2 ^ 54 * 2 ^ k := by
    exact_mod_cast Iff.rfl
  have hleft : (n : ℚ) * 2 ^ (971 : Int) = 2 * n * 2 ^ 970 := by
    rw [show (971 : Int) = (970 : Nat) + 1 from rfl, zpow_add_one₀ two_ne_zero, zpow_natCast]
    generalize (2 : ℚ) ^ 970 = c
    ring
  have hright : bound * 2 ^ k = (2 ^ 54 * 2 ^ k - 2 ^ k) * 2 ^ 970 := by
    rw [bound, mul_right_comm, sub_mul, one_mul]
  rw [hcarry, hcast, zpow_sub₀ two_ne_zero, zpow_natCast, ← mul_div_assoc, div_lt_iff₀ hpos, hleft,
    hright, mul_lt_mul_iff_left₀ (by positivity), lt_sub_iff_add_lt]

/-- A quotient by a power of two is below the bound just if its exponent is below the last one, or
is the last one and the mantissa does not carry. -/
theorem lt_bound_iff_of_log2 {n j s : Nat} (hn : n ≠ 0) (hs : n.log2 = j + 52 + s) :
    (n : ℚ) * 2 ^ (-(j : Int)) < bound ↔
      s < 971 ∨ s = 971 ∧ roundDiv n (2 ^ (j + s)) < 2 ^ 53 := by
  obtain ⟨hbelow, habove⟩ := lt_bound_of_log2 hn (e := -(j : Int))
  rcases lt_trichotomy s 971 with h | rfl | h
  · exact ⟨fun _ => .inl h, fun _ => hbelow (by omega)⟩
  · have hlast := lt_bound_iff n (j + 971)
    rw [show (971 : Int) - ((j + 971 : Nat) : Int) = -j by omega] at hlast
    rw [hlast]
    exact ⟨fun hm => .inr ⟨rfl, hm⟩, fun hm => by omega⟩
  · exact ⟨fun hlt => absurd hlt (habove (by omega)).not_gt, fun hor => by omega⟩

/-- The double nearest to a quotient by a power of two that has 53 bits before the point or more, if
it is below the bound. -/
theorem ofRatio?_of_le_log2 (negative : Bool) {n j s : Nat} (hn : n ≠ 0)
    (hs : n.log2 = j + 52 + s) :
    ofRatio? negative n (2 ^ j) =
      if (n : ℚ) * 2 ^ (-(j : Int)) < bound then
        some (pack negative (roundDiv n (2 ^ (j + s))) s)
      else none := by
  have hexponent : exponent n (2 ^ j) = s := by
    rw [exponent_two_pow hn]
    omega
  have hscale : scale n (2 ^ j) s = (n, 2 ^ (j + s)) := by
    unfold scale
    rw [if_pos (Int.natCast_nonneg s), Int.toNat_natCast, twoTo_eq, pow_add]
  have hbeyond : 971 < (s : Int) ∨ (s : Int) = 971 ∧ roundDiv n (2 ^ (j + s)) = 2 ^ 53 ↔
      ¬(n : ℚ) * 2 ^ (-(j : Int)) < bound := by
    have hmost : roundDiv n (2 ^ (j + s)) ≤ 2 ^ 53 := (roundDiv_of_log2 hn (by omega)).2
    rw [lt_bound_iff_of_log2 hn hs]
    omega
  unfold ofRatio?
  rw [if_neg hn, hexponent]
  dsimp only
  rw [hscale]
  dsimp only
  rw [twoTo_eq]
  simp only [hbeyond, ite_not]

/-! ## Integers -/

/-- A natural number that is a double. -/
def IsDouble (n : Nat) : Prop :=
  ∃ m e, m < 2 ^ 53 ∧ e ≤ 971 ∧ n = m * 2 ^ e

/-- A number of up to 53 bits is a double. -/
theorem isDouble_of_lt {n : Nat} (h : n < 2 ^ 53) : IsDouble n :=
  ⟨n, 0, h, Nat.zero_le _, by rw [Nat.pow_zero, Nat.mul_one]⟩

/-- A mantissa that may have carried, with an exponent, is a double. -/
theorem isDouble_of_le {m s : Nat} (hm : m ≤ 2 ^ 53) (hs : s < 971 ∨ s = 971 ∧ m < 2 ^ 53) :
    IsDouble (m * 2 ^ s) := by
  rcases Nat.lt_or_eq_of_le hm with hm | rfl
  · exact ⟨m, s, hm, by omega, rfl⟩
  · refine ⟨2 ^ 52, s + 1, by norm_num, by omega, ?_⟩
    rw [← pow_add, ← pow_add]
    congr 1
    omega

/-! ## Rounding up -/

/-- The quotient of natural numbers is rounded up as their division is. -/
theorem ceil_div (n : Nat) {d : Nat} (hd : 0 < d) :
    ⌈(n / d : ℚ)⌉ = ((n + d - 1) / d : Nat) := by
  have hdiv : (n + d - 1) / d * d + (n + d - 1) % d = n + d - 1 := Nat.div_add_mod' ..
  have hmod : (n + d - 1) % d < d := Nat.mod_lt _ hd
  generalize (n + d - 1) / d = q at hdiv ⊢
  have hd' : (0 : ℚ) < d := by exact_mod_cast hd
  have hlow : (q * d : ℚ) < n + d := by exact_mod_cast (show q * d < n + d by omega)
  have hhigh : (n : ℚ) ≤ q * d := by exact_mod_cast (show n ≤ q * d by omega)
  rw [Int.ceil_eq_iff, Int.cast_natCast, lt_div_iff₀ hd', div_le_iff₀ hd', sub_mul, one_mul,
    sub_lt_iff_lt_add]
  exact ⟨hlow, hhigh⟩

/-- A number is the quotient of its numerator and its denominator. -/
theorem scale_one (m : Nat) (e : Int) :
    0 < (scale m 1 (-e)).2 ∧
      ((scale m 1 (-e)).1 : ℚ) / (scale m 1 (-e)).2 = m * 2 ^ e := by
  unfold scale
  split
  next h =>
    obtain ⟨k, rfl⟩ : ∃ k : Nat, e = -(k : Int) := ⟨(-e).toNat, by omega⟩
    rw [neg_neg, Int.toNat_natCast, twoTo_eq, Nat.one_mul, zpow_neg, zpow_natCast, ← div_eq_mul_inv]
    exact ⟨by positivity, by push_cast; rfl⟩
  next h =>
    obtain ⟨k, rfl⟩ : ∃ k : Nat, e = k := ⟨e.toNat, by omega⟩
    rw [neg_neg, Int.toNat_natCast, twoTo_eq, zpow_natCast]
    exact ⟨by positivity, by push_cast; rw [div_one]⟩

/-- The least integer that is not below a number. -/
theorem ceil?_finite (m : Nat) (e : Int) :
    (Exact.finite false m e).ceil? = .ok ⌈(m : ℚ) * 2 ^ e⌉ := by
  obtain ⟨hpos, hvalue⟩ := scale_one m e
  rw [← hvalue, ceil_div _ hpos]
  rfl

/-- The least integer that is not below a double, be it that its mantissa carries. -/
theorem ceil?_pack {m : Nat} {e : Int} (hm : m ≤ 2 ^ 53) (hlow : -1074 ≤ e)
    (hhigh : e < 971 ∨ e = 971 ∧ m < 2 ^ 53) (hsmall : m < 2 ^ 52 → e = -1074) :
    (Exact.ofFloat (pack false m e)).ceil? = .ok ⌈(m : ℚ) * 2 ^ e⌉ := by
  rcases Nat.lt_or_eq_of_le hm with hm | rfl
  · rw [ofFloat_pack false hm hlow (by omega) hsmall, ceil?_finite]
  · have hirrefl : 2 ^ 52 < 2 ^ 52 → e + 1 = -1074 := fun h => absurd h (lt_irrefl _)
    rw [pack_carry false hlow, ofFloat_pack false (by decide) (by omega) (by omega) hirrefl,
      ceil?_finite, zpow_add_one₀ two_ne_zero]
    congr 2
    push_cast
    ring

end Binary64

end BlockingQuery
