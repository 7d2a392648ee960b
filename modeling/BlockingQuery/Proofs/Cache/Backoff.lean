import BlockingQuery.Cache.Backoff
import Mathlib.Algebra.Order.Field.Basic
import Mathlib.Algebra.Order.Field.Rat
import Mathlib.Tactic.Linarith
import Mathlib.Tactic.NormNum
import Mathlib.Tactic.Ring

/-!
# The bounds of a delay

Reckoned in rational numbers, the delay after a number of failures lies around its cap
(`Config.cap`), which is the base delay doubled with each failure after the first, but never above
the greatest delay. In a configuration without defects (`Config.IsSound`) chance takes away no more
than half of the cap, and the greatest delay bounds what chance adds (`Config.backoff_tempered`).
-/

namespace BlockingQuery

/-! ## Seconds as rational numbers -/

namespace Seconds

@[simp] theorem two_rat : (two : ℚ) = 2 := one_add_one_eq_two

@[simp] theorem twoPow_rat (n : ℕ) : (twoPow n : ℚ) = 2 ^ n := by
  induction n with
  | zero => rfl
  | succ n ih => rw [twoPow, ih, two_rat, pow_succ']

@[simp] theorem lesser_rat (a b : ℚ) : lesser a b = min a b := by
  rw [min_comm]
  exact (min_def_lt b a).symm

end Seconds

namespace Config

open Seconds

variable {c : Config ℚ} {m n : ℤ} {draw : ℚ}

/-! ## What a configuration without defects grants -/

/-- The delays of a configuration are not negative, the base delay is not above the greatest one,
and the part that is left to chance is a part. -/
structure IsSound (c : Config ℚ) : Prop where
  base_nonneg : 0 ≤ c.backoffBase
  base_le_max : c.backoffBase ≤ c.backoffMax
  jitter_nonneg : 0 ≤ c.jitter
  jitter_le_one : c.jitter ≤ 1

/-- A configuration without defects is sound. -/
theorem isSound_of_defects (h : c.defects = []) : c.IsSound := by
  have hflags := List.filterMap_eq_nil_iff.1 (List.append_eq_nil_iff.1 h).1
  simp only [List.forall_mem_cons, ite_eq_right_iff, reduceCtorEq, imp_false, decide_eq_true_eq,
    Bool.not_eq_true', Bool.not_eq_false, Bool.and_eq_true] at hflags
  obtain ⟨-, hbase, -, ⟨hnonneg, hle⟩, -, -, -, hmax, -⟩ := hflags
  exact ⟨not_lt.1 hbase, not_lt.1 hmax, hnonneg, hle⟩

/-! ## The cap of a delay -/

/-- The delay after `n` failures that chance spreads around. -/
def cap (c : Config ℚ) (n : ℤ) : ℚ :=
  min c.backoffMax (c.backoffBase * 2 ^ min (n - 1).toNat 32)

@[simp] theorem cappedDelay_rat : c.cappedDelay n = c.cap n := by
  rw [cappedDelay, lesser_rat, twoPow_rat]
  rfl

/-- The base delay is the least cap. -/
theorem IsSound.base_le_cap (h : c.IsSound) (n : ℤ) : c.backoffBase ≤ c.cap n :=
  le_min h.base_le_max (le_mul_of_one_le_right h.base_nonneg (one_le_pow₀ one_le_two))

theorem cap_le_max (c : Config ℚ) (n : ℤ) : c.cap n ≤ c.backoffMax :=
  min_le_left _ _

/-- With more failures the cap is no smaller. -/
theorem IsSound.cap_le_cap (h : c.IsSound) (hmn : m ≤ n) : c.cap m ≤ c.cap n := by
  have hexponent : min (m - 1).toNat 32 ≤ min (n - 1).toNat 32 := by omega
  exact min_le_min_left _ (mul_le_mul_of_nonneg_left
    (pow_le_pow_right₀ one_le_two hexponent) h.base_nonneg)

/-! ## The share of the cap -/

/-- The share of the cap that a draw makes of it. -/
def share (c : Config ℚ) (draw : ℚ) : ℚ :=
  1 - c.jitter / 2 + draw * c.jitter

/-- A delay is a share of its cap, but no more than the greatest delay. -/
theorem backoff_rat (hn : 1 ≤ n) (draw : ℚ) :
    c.backoff n draw = min (c.cap n * c.share draw) c.backoffMax := by
  have hpos : ¬n ≤ 0 := by omega
  rw [backoff, if_neg hpos, lesser_rat, cappedDelay_rat, two_rat, share]
  congr 1
  change _ * (1 - _) + _ = _
  ring

theorem IsSound.le_share (h : c.IsSound) (hdraw : 0 ≤ draw) : 1 - c.jitter / 2 ≤ c.share draw :=
  le_add_of_nonneg_right (mul_nonneg hdraw h.jitter_nonneg)

theorem IsSound.share_le (h : c.IsSound) (hdraw : draw ≤ 1) : c.share draw ≤ 1 + c.jitter / 2 := by
  have hpart : draw * c.jitter ≤ c.jitter := mul_le_of_le_one_left h.jitter_nonneg hdraw
  unfold share
  linarith

theorem IsSound.half_le (h : c.IsSound) : 1 / 2 ≤ 1 - c.jitter / 2 := by
  linarith [h.jitter_le_one]

/-! ## The delays -/

/-- What holds of all the delays for one draw. -/
structure Tempered (c : Config ℚ) (draw : ℚ) : Prop where
  le_backoff : ∀ n, 1 ≤ n → c.cap n * (1 - c.jitter / 2) ≤ c.backoff n draw
  backoff_le : ∀ n, 1 ≤ n →
    c.backoff n draw ≤ min c.backoffMax (c.cap n * (1 + c.jitter / 2))
  half_base_le : ∀ n, 1 ≤ n → c.backoffBase / 2 ≤ c.backoff n draw
  pos : 0 < c.backoffBase → ∀ n, 1 ≤ n → 0 < c.backoff n draw
  le_max : ∀ n, 1 ≤ n → c.backoff n draw ≤ c.backoffMax
  mono : ∀ m n, 1 ≤ m → m ≤ n → c.backoff m draw ≤ c.backoff n draw

/-- The delays of a configuration without defects lie around their caps, on both sides of them by
no more than half the jitter. So they are at least half of the base delay and at most the greatest
delay, and more failures never make them shorter. -/
theorem backoff_tempered (hc : c.defects = []) (h0 : 0 ≤ draw) (h1 : draw < 1) :
    c.Tempered draw := by
  have h := isSound_of_defects hc
  have hcap (n : ℤ) : 0 ≤ c.cap n := h.base_nonneg.trans (h.base_le_cap n)
  have hlower (n : ℤ) (hn : 1 ≤ n) : c.cap n * (1 - c.jitter / 2) ≤ c.backoff n draw := by
    rw [backoff_rat hn]
    have hshare : 1 - c.jitter / 2 ≤ 1 := sub_le_self _ (div_nonneg h.jitter_nonneg zero_le_two)
    exact le_min (mul_le_mul_of_nonneg_left (h.le_share h0) (hcap n))
      ((mul_le_of_le_one_right (hcap n) hshare).trans (c.cap_le_max n))
  have hhalf (n : ℤ) (hn : 1 ≤ n) : c.backoffBase / 2 ≤ c.backoff n draw :=
    calc c.backoffBase / 2 = c.backoffBase * (1 / 2) := by ring
      _ ≤ c.cap n * (1 - c.jitter / 2) :=
        mul_le_mul (h.base_le_cap n) h.half_le one_half_pos.le (hcap n)
      _ ≤ c.backoff n draw := hlower n hn
  constructor
  case le_backoff => exact hlower
  case backoff_le =>
    intro n hn
    rw [backoff_rat hn, min_comm]
    exact min_le_min_left _ (mul_le_mul_of_nonneg_left (h.share_le h1.le) (hcap n))
  case half_base_le => exact hhalf
  case pos =>
    intro hbase n hn
    exact (half_pos hbase).trans_le (hhalf n hn)
  case le_max =>
    intro n hn
    rw [backoff_rat hn]
    exact min_le_right _ _
  case mono =>
    intro m n hm hmn
    have hshare : 0 ≤ c.share draw := one_half_pos.le.trans (h.half_le.trans (h.le_share h0))
    rw [backoff_rat hm, backoff_rat (hm.trans hmn)]
    exact min_le_min_right _ (mul_le_mul_of_nonneg_right (h.cap_le_cap hmn) hshare)

/-- A configuration whose delays are 3, 6 and 10 seconds before chance comes in. -/
def sample : Config ℚ where
  waitSeconds := 10
  backoffBase := 3
  backoffMax := 10
  jitter := 1 / 2
  minDelay := 0
  minDelayOnEmpty := 0
  adjustment := {}
  stopTimeout := 5
  dispatchInBackground := false

/-- At the cap the greatest delay bounds what chance adds. -/
theorem backoff_tempered_sample :
    sample.defects = [] ∧ sample.Tempered (9 / 10) ∧ sample.backoff 3 (9 / 10) = 10 := by
  have hdefects : sample.defects = [] := by decide +kernel
  exact ⟨hdefects, backoff_tempered hdefects (by norm_num) (by norm_num), by decide +kernel⟩

end Config

end BlockingQuery
