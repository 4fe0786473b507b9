import Mathlib.Algebra.Order.Field.Rat
import Mathlib.Data.Nat.Cast.Order.Field
import Mathlib.Algebra.Order.Field.Power
import Mathlib.Tactic.Linarith
import Mathlib.Tactic.Positivity
import Mathlib.Tactic.NormNum
import Mathlib.Tactic.FieldSimp
import PadMapping.Binary.Arithmetic

/-!
# Whole numbers in the 32-bit format

What a device reports are whole numbers, and they are rounded before anything is computed from
them. The rounding goes by the last bit in which a number of the given size is written. For a whole
number this bit is either a whole number itself or a fraction of one with which it can be written
exactly, so the rounded number is whole again; and since the number has at least as many bits as
that one, it is not rounded to zero.
-/

namespace PadMapping.Proofs

open Binary

/-! ## Powers of two -/

theorem twoTo_eq_zpow (e : Int) : twoTo e = (2 : ℚ) ^ e := by
  cases e with
  | ofNat n => simp [twoTo]
  | negSucc n => simp [twoTo, Rat.mkRat_eq_div, zpow_negSucc]

theorem twoTo_pos (e : Int) : 0 < twoTo e := by
  rw [twoTo_eq_zpow]
  exact zpow_pos (by norm_num) e

/-! ## The nearest integer -/

theorem le_nearestEven {k : Int} {x : ℚ} (h : (k : ℚ) ≤ x) : k ≤ nearestEven x := by
  have hfloor : k ≤ x.floor := Rat.le_floor_iff.mpr h
  rw [nearestEven]
  split_ifs <;> omega

theorem nearestEven_le {k : Int} {x : ℚ} (h : x ≤ (k : ℚ)) : nearestEven x ≤ k := by
  rcases h.lt_or_eq with hlt | rfl
  · have hfloor : x.floor < k := Rat.floor_lt_iff.mpr hlt
    rw [nearestEven]
    split_ifs <;> omega
  · simp [nearestEven, Rat.floor_intCast]

theorem nearestEven_intCast (k : Int) : nearestEven (k : ℚ) = k :=
  le_antisymm (nearestEven_le le_rfl) (le_nearestEven le_rfl)

/-! ## Whole numbers -/

section

variable {n : Int}

theorem abs_eq (x : ℚ) : x.abs = |x| := by
  rcases le_total 0 x with h | h
  · rw [Rat.abs_of_nonneg h, abs_of_nonneg h]
  · rw [Rat.abs_of_nonpos h, abs_of_nonpos h]

/-- The leading bit of a whole number. -/
theorem log2_bounds (hn : n ≠ 0) :
    (2 : ℚ) ^ n.natAbs.log2 ≤ |(n : ℚ)| ∧ |(n : ℚ)| < 2 * (2 : ℚ) ^ n.natAbs.log2 := by
  have hsize : |(n : ℚ)| = (n.natAbs : ℚ) := by rw [Nat.cast_natAbs, Int.cast_abs]
  have hle : 2 ^ n.natAbs.log2 ≤ n.natAbs := Nat.log2_self_le (by omega)
  have hlt : n.natAbs < 2 * 2 ^ n.natAbs.log2 := by
    rw [← Nat.pow_succ']
    exact Nat.lt_log2_self
  rw [hsize]
  constructor
  · calc (2 : ℚ) ^ n.natAbs.log2 = ((2 ^ n.natAbs.log2 : Nat) : ℚ) := by push_cast; rfl
      _ ≤ (n.natAbs : ℚ) := Nat.cast_le.mpr hle
  · calc (n.natAbs : ℚ) < ((2 * 2 ^ n.natAbs.log2 : Nat) : ℚ) := Nat.cast_lt.mpr hlt
      _ = 2 * (2 : ℚ) ^ n.natAbs.log2 := by push_cast; rfl

theorem order_intCast (hn : n ≠ 0) : order (n : ℚ) = (n.natAbs.log2 : Int) := by
  have hone : Nat.log2 1 = 0 := by decide
  have hnot : ¬ |(n : ℚ)| < twoTo (n.natAbs.log2 : Int) := by
    rw [not_lt, twoTo_eq_zpow, zpow_natCast]
    exact (log2_bounds hn).1
  rw [order, abs_eq, Rat.num_intCast, Rat.den_intCast, hone]
  simp only [Nat.cast_zero, sub_zero, hnot, if_false]

theorem lastBit_intCast (hn : n ≠ 0) :
    Format.single.lastBit n = (n.natAbs.log2 : Int) - 23 := by
  have hmin : Format.single.minOrder ≤ 0 := by decide
  rw [Format.lastBit, order_intCast hn, max_eq_right (by omega)]
  rfl

/-- Counted in the last bit, a number is as large as the format has room for. -/
theorem abs_div_lastBit (hn : n ≠ 0) :
    (2 : ℚ) ^ 23 ≤ |(n : ℚ)| / twoTo (Format.single.lastBit n)
      ∧ |(n : ℚ)| / twoTo (Format.single.lastBit n) ≤ (2 : ℚ) ^ 24 := by
  obtain ⟨hle, hlt⟩ := log2_bounds hn
  have hunit : twoTo (Format.single.lastBit n) = (2 : ℚ) ^ n.natAbs.log2 / 2 ^ 23 := by
    rw [lastBit_intCast hn, twoTo_eq_zpow, zpow_sub₀ (by norm_num)]
    norm_cast
  have hpos : (0 : ℚ) < 2 ^ n.natAbs.log2 := by positivity
  rw [hunit, le_div_iff₀ (by positivity), div_le_iff₀ (by positivity)]
  constructor <;> linarith

/-- In the last bit of a whole number every number of its size is counted in whole numbers. -/
theorem exists_int_mul_lastBit (hn : n ≠ 0) : ∃ m : Int,
    (nearestEven (n / twoTo (Format.single.lastBit n)) : ℚ) * twoTo (Format.single.lastBit n)
      = m := by
  rw [lastBit_intCast hn, twoTo_eq_zpow]
  rcases le_total 23 n.natAbs.log2 with hlarge | hsmall
  · refine ⟨nearestEven (n / (2 : ℚ) ^ ((n.natAbs.log2 : Int) - 23))
      * 2 ^ (n.natAbs.log2 - 23), ?_⟩
    have hunit : (2 : ℚ) ^ ((n.natAbs.log2 : Int) - 23) = 2 ^ (n.natAbs.log2 - 23) := by
      rw [← zpow_natCast, Nat.cast_sub hlarge]
      norm_cast
    rw [hunit]
    push_cast
    rfl
  · refine ⟨n, ?_⟩
    have hunit : (n : ℚ) / (2 : ℚ) ^ ((n.natAbs.log2 : Int) - 23)
        = ((n * 2 ^ (23 - n.natAbs.log2) : Int) : ℚ) := by
      rw [div_eq_mul_inv, ← zpow_neg, neg_sub]
      push_cast
      rw [← zpow_natCast, Nat.cast_sub hsmall]
      norm_cast
    rw [hunit, nearestEven_intCast, ← hunit]
    field_simp

/-- The rounded number has the sign of the number and is at most twice as large. -/
theorem nearestEven_mul_bounds (hn : n ≠ 0) :
    let unit := twoTo (Format.single.lastBit n)
    let y := (nearestEven (n / unit) : ℚ) * unit
    |y| ≤ 2 * |(n : ℚ)| ∧ (0 < n → 0 < y) ∧ (n < 0 → y < 0) := by
  intro unit y
  have hunit : 0 < unit := twoTo_pos _
  obtain ⟨hlow, hhigh⟩ := abs_div_lastBit hn
  have hsize : (2 : ℚ) ^ 24 * unit ≤ 2 * |(n : ℚ)| := by
    have hle := (le_div_iff₀ hunit).mp hlow
    linarith
  rcases lt_or_gt_of_ne hn with hneg | hpos
  · have habs : |(n : ℚ)| = -(n : ℚ) := abs_of_neg (by exact_mod_cast hneg)
    rw [habs, neg_div] at hlow hhigh
    have hle : nearestEven (n / unit) ≤ -2 ^ 23 := nearestEven_le (by push_cast; linarith)
    have hge : -2 ^ 24 ≤ nearestEven (n / unit) := le_nearestEven (by push_cast; linarith)
    have hle' : (nearestEven (n / unit) : ℚ) ≤ -2 ^ 23 := by exact_mod_cast hle
    have hge' : -2 ^ 24 ≤ (nearestEven (n / unit) : ℚ) := by exact_mod_cast hge
    have hy : y < 0 := mul_neg_of_neg_of_pos (by linarith) hunit
    refine ⟨?_, fun h => absurd h (by omega), fun _ => hy⟩
    rw [abs_of_neg hy]
    nlinarith
  · have habs : |(n : ℚ)| = (n : ℚ) := abs_of_pos (by exact_mod_cast hpos)
    rw [habs] at hlow hhigh
    have hle : nearestEven (n / unit) ≤ 2 ^ 24 := nearestEven_le (by push_cast; linarith)
    have hge : 2 ^ 23 ≤ nearestEven (n / unit) := le_nearestEven (by push_cast; linarith)
    have hle' : (nearestEven (n / unit) : ℚ) ≤ 2 ^ 24 := by exact_mod_cast hle
    have hge' : 2 ^ 23 ≤ (nearestEven (n / unit) : ℚ) := by exact_mod_cast hge
    have hy : 0 < y := mul_pos (by linarith) hunit
    refine ⟨?_, fun _ => hy, fun h => absurd h (by omega)⟩
    rw [abs_of_pos hy]
    nlinarith

/-- A whole number that is not too large is rounded to a whole number of about its size and with
its sign. -/
theorem ofInt_eq_number (h : |n| ≤ 2 ^ 100) : ∃ m : Int,
    (Binary.ofInt n : Single) = .number (m : ℚ) ∧ |m| ≤ 2 * |n| ∧ (0 < n → 0 < m) := by
  rcases eq_or_ne n 0 with rfl | hn
  · exact ⟨0, by decide +kernel, by simp⟩
  obtain ⟨m, hm⟩ := exists_int_mul_lastBit hn
  obtain ⟨hsize, hpos, hneg⟩ := nearestEven_mul_bounds hn
  rw [hm] at hsize hpos hneg
  have hlargest : (2 : ℚ) * 2 ^ 100 ≤ Format.single.largest := by decide +kernel
  have hn' : |(n : ℚ)| ≤ 2 ^ 100 := by exact_mod_cast h
  obtain ⟨hlow, hhigh⟩ := abs_le.mp (hsize.trans (by linarith : _ ≤ Format.single.largest))
  refine ⟨m, ?_, by exact_mod_cast hsize, fun h0 => by exact_mod_cast hpos h0⟩
  have hzero : ¬ ((m : ℚ) = 0 ∧ (n : ℚ) < 0) := by
    rintro ⟨hm0, hn0⟩
    have hm1 := hneg (by exact_mod_cast hn0)
    linarith
  rw [Binary.ofInt, Binary.round]
  simp only [hm]
  rw [if_neg (by linarith), if_neg (by linarith), if_neg hzero]

/-! ## Differences and quotients -/

@[simp] theorem round_zero : (Binary.round 0 : Single) = .number 0 := by decide +kernel

/-- A finite number less itself is zero. -/
theorem sub_self_number (x : ℚ) : (Binary.number x : Single).sub (.number x) = .number 0 := by
  by_cases hx : x = 0
  · subst hx
    rfl
  · rw [Binary.sub, Binary.neg, if_neg hx, Binary.add, Rat.add_neg_cancel, round_zero]

/-- The difference of two whole numbers, the first of them larger, is positive. -/
theorem sub_number {h l : Int} (hlt : l < h) (hsize : |h - l| ≤ 2 ^ 100) :
    ∃ m : Int, (Binary.number (h : ℚ) : Single).sub (.number (l : ℚ)) = .number (m : ℚ)
      ∧ 0 < m := by
  by_cases hl : l = 0
  · refine ⟨h, ?_, by omega⟩
    subst hl
    rfl
  · obtain ⟨m, hm, _, hpos⟩ := ofInt_eq_number hsize
    refine ⟨m, ?_, hpos (by omega)⟩
    have hl' : (l : ℚ) ≠ 0 := by exact_mod_cast hl
    rw [Binary.sub, Binary.neg, if_neg hl', Binary.add, ← hm, Binary.ofInt]
    push_cast
    rw [sub_eq_add_neg]

/-- Zero divided by a positive number is zero. -/
theorem zero_div_number {x : ℚ} (h : 0 < x) :
    (Binary.number 0 : Single).div (.number x) = .number 0 := by
  have hsign : decide (x < 0) = false := decide_eq_false (not_lt.mpr h.le)
  simp [Binary.div, h.ne', Binary.isNegative, hsign, Binary.zero]

end
end PadMapping.Proofs
