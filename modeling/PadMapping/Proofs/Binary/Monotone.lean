import PadMapping.Proofs.Binary.Whole

/-!
# Rounding keeps the order

Rounding goes by the last bit in which a number is written, and that bit is another one for larger
numbers. So two numbers can be rounded in different units, and it has to be seen that they do not
change places.

What lies between two units is a power of two. It is a whole number of either unit, and so no number
is rounded past it: the smaller number stays below it and the larger one above. Within one unit the
order is kept because it is kept among integers.
-/

namespace PadMapping.Proofs

open Binary

/-! ## The nearest integer -/

theorem nearestEven_mono {x y : ℚ} (h : x ≤ y) : nearestEven x ≤ nearestEven y := by
  have hbounds : ∀ z : ℚ, z.floor ≤ nearestEven z ∧ nearestEven z ≤ z.floor + 1 := by
    intro z
    rw [nearestEven]
    split_ifs <;> omega
  rcases (Rat.floor_monotone h).lt_or_eq with hlt | heq
  · have hx := (hbounds x).2
    have hy := (hbounds y).1
    omega
  · rw [nearestEven, nearestEven, heq]
    split_ifs <;> first | omega | (exfalso; linarith)

theorem nearestEven_neg (x : ℚ) : nearestEven (-x) = -nearestEven x := by
  have hle := Rat.floor_le x
  have hlt : x - 1 < x.floor := Rat.lt_floor
  by_cases hx : (x.floor : ℚ) = x
  · rw [← hx, nearestEven_intCast, ← Int.cast_neg, nearestEven_intCast]
  · have hfloor : (-x).floor = -x.floor - 1 := by
      have hlow : -x.floor - 1 ≤ (-x).floor := Rat.le_floor_iff.mpr (by push_cast; linarith)
      have hhigh : (-x).floor < -x.floor := Rat.floor_lt_iff.mpr (by
        push_cast
        exact neg_lt_neg (lt_of_le_of_ne hle hx))
      omega
    rw [nearestEven, nearestEven, hfloor]
    push_cast
    split_ifs <;> first | omega | (exfalso; linarith)

/-! ## The leading bit -/

theorem twoTo_add_one (e : Int) : twoTo (e + 1) = 2 * twoTo e := by
  rw [twoTo_eq_zpow, twoTo_eq_zpow, zpow_add_one₀ (by norm_num), mul_comm]

theorem twoTo_mono {a b : Int} (h : a ≤ b) : twoTo a ≤ twoTo b := by
  rw [twoTo_eq_zpow, twoTo_eq_zpow]
  exact zpow_le_zpow_right₀ (by norm_num) h

theorem lt_of_twoTo_lt_two_mul {a b : Int} (h : twoTo a < 2 * twoTo b) : a < b + 1 := by
  rw [← twoTo_add_one, twoTo_eq_zpow, twoTo_eq_zpow] at h
  exact (zpow_lt_zpow_iff_right₀ (by norm_num)).mp h

section

variable {x y : ℚ}

/-- The leading bit of a number. -/
theorem order_bounds (hx : x ≠ 0) : twoTo (order x) ≤ |x| ∧ |x| < 2 * twoTo (order x) := by
  obtain ⟨hnumLow, hnumHigh⟩ := log2_bounds (Rat.num_ne_zero.mpr hx)
  obtain ⟨hdenLow, hdenHigh⟩ := log2_bounds (n := (x.den : Int)) (by exact_mod_cast x.den_nz)
  rw [Int.natAbs_natCast, Int.cast_natCast, Nat.abs_cast] at hdenLow hdenHigh
  have hden : (0 : ℚ) < x.den := by exact_mod_cast x.den_pos
  have hsize : |x| = |(x.num : ℚ)| / x.den := by
    conv_lhs => rw [← Rat.num_div_den x]
    rw [abs_div, Nat.abs_cast]
  -- the bits of numerator and denominator tell the leading bit up to one
  set e : Int := (x.num.natAbs.log2 : Int) - (x.den.log2 : Int) with he
  have htwo : twoTo e = 2 ^ x.num.natAbs.log2 / 2 ^ x.den.log2 := by
    rw [twoTo_eq_zpow, he, zpow_sub₀ (by norm_num), zpow_natCast, zpow_natCast]
  have hlow : twoTo e ≤ 2 * |x| := by
    rw [htwo, hsize, ← mul_div_assoc, div_le_div_iff₀ (by positivity) hden]
    nlinarith
  have hhigh : |x| < 2 * twoTo e := by
    rw [htwo, hsize, ← mul_div_assoc, div_lt_div_iff₀ hden (by positivity)]
    nlinarith
  have hpred := twoTo_add_one (e - 1)
  rw [sub_add_cancel] at hpred
  rw [order, abs_eq]
  split_ifs with hlt
  · constructor <;> linarith
  · exact ⟨not_lt.mp hlt, hhigh⟩

theorem order_neg (x : ℚ) : order (-x) = order x := by
  rw [order, order, abs_eq, abs_eq, abs_neg, Rat.num_neg_eq_neg_num, Rat.den_neg_eq_den,
    Int.natAbs_neg]

/-- The leading bit is the only one with these bounds. -/
theorem order_eq {e : Int} (hlow : twoTo e ≤ |x|) (hhigh : |x| < 2 * twoTo e) : order x = e := by
  have hx : x ≠ 0 := abs_pos.mp ((twoTo_pos e).trans_le hlow)
  obtain ⟨hlow', hhigh'⟩ := order_bounds hx
  have hle := lt_of_twoTo_lt_two_mul (hlow'.trans_lt hhigh)
  have hge := lt_of_twoTo_lt_two_mul (hlow.trans_lt hhigh')
  omega

theorem order_mono (hx : x ≠ 0) (h : |x| ≤ |y|) : order x ≤ order y := by
  have hy : y ≠ 0 := abs_pos.mp ((abs_pos.mpr hx).trans_le h)
  have hlt := lt_of_twoTo_lt_two_mul
    ((order_bounds hx).1.trans_lt (h.trans_lt (order_bounds hy).2))
  omega

end

/-! ## The nearest number -/

/-- The number that `x` is rounded to as long as the format has room for it. -/
def nearest (f : Format) (x : ℚ) : ℚ :=
  nearestEven (x / twoTo (f.lastBit x)) * twoTo (f.lastBit x)

section

variable {f : Format} {x y : ℚ}

theorem lastBit_neg (x : ℚ) : f.lastBit (-x) = f.lastBit x := by
  rw [Format.lastBit, Format.lastBit, order_neg]

theorem nearest_neg (x : ℚ) : nearest f (-x) = -nearest f x := by
  rw [nearest, nearest, lastBit_neg, neg_div, nearestEven_neg, Int.cast_neg, neg_mul]

/-- A power of two is a whole number of smaller ones. -/
theorem twoTo_eq_mul {a b : Int} (h : b ≤ a) : ∃ k : Int, twoTo a = k * twoTo b := by
  refine ⟨2 ^ (a - b).toNat, ?_⟩
  have hsplit : a = ((a - b).toNat : Int) + b := by omega
  conv_lhs => rw [hsplit, twoTo_eq_zpow, zpow_add₀ (by norm_num), zpow_natCast]
  rw [twoTo_eq_zpow]
  push_cast
  rfl

/-- No number is rounded past a multiple of the unit in which it is written. -/
theorem nearest_le {k e : Int} (h : x ≤ k * twoTo e) (he : f.lastBit x ≤ e) :
    nearest f x ≤ k * twoTo e := by
  obtain ⟨m, hm⟩ := twoTo_eq_mul he
  have hunit := twoTo_pos (f.lastBit x)
  have hle : nearestEven (x / twoTo (f.lastBit x)) ≤ k * m := nearestEven_le (by
    rw [div_le_iff₀ hunit]
    push_cast
    rwa [mul_assoc, ← hm])
  have hle' : (nearestEven (x / twoTo (f.lastBit x)) : ℚ) ≤ k * m := by exact_mod_cast hle
  rw [nearest, hm, ← mul_assoc]
  exact mul_le_mul_of_nonneg_right hle' hunit.le

theorem le_nearest {k e : Int} (h : k * twoTo e ≤ x) (he : f.lastBit x ≤ e) :
    k * twoTo e ≤ nearest f x := by
  have hneg := nearest_le (f := f) (x := -x) (k := -k) (e := e)
    (by push_cast; linarith) (by rwa [lastBit_neg])
  rw [nearest_neg] at hneg
  push_cast at hneg
  linarith

theorem nearest_of_multiple {k e : Int} (h : x = k * twoTo e) (he : f.lastBit x ≤ e) :
    nearest f x = x := by
  rw [h]
  exact le_antisymm (nearest_le le_rfl (h ▸ he)) (le_nearest le_rfl (h ▸ he))

theorem nearest_nonneg (h : 0 ≤ x) : 0 ≤ nearest f x := by
  simpa using le_nearest (f := f) (k := 0) (e := f.lastBit x) (by simpa using h) le_rfl

theorem nearest_nonpos (h : x ≤ 0) : nearest f x ≤ 0 := by
  simpa using nearest_le (f := f) (k := 0) (e := f.lastBit x) (by simpa using h) le_rfl

@[simp] theorem nearest_zero : nearest f 0 = 0 :=
  le_antisymm (nearest_nonpos le_rfl) (nearest_nonneg le_rfl)

/-- The last bit is not above the leading one, unless that is below all bits of the format. -/
theorem lastBit_le (hf : 0 < f.precision) (x : ℚ) : f.lastBit x ≤ max f.minOrder (order x) := by
  rw [Format.lastBit]
  omega

theorem abs_lt_twoTo (f : Format) (x : ℚ) : |x| < twoTo (max f.minOrder (order x) + 1) := by
  by_cases hx : x = 0
  · rw [hx, abs_zero]
    exact twoTo_pos _
  · refine (order_bounds hx).2.trans_le ?_
    rw [← twoTo_add_one]
    exact twoTo_mono (by omega)

theorem nearest_mono_of_pos (hf : 0 < f.precision) (hx : 0 < x) (h : x ≤ y) :
    nearest f x ≤ nearest f y := by
  have hy : 0 < y := hx.trans_le h
  have horder : order x ≤ order y := order_mono hx.ne' (by rwa [abs_of_pos hx, abs_of_pos hy])
  by_cases hunit : f.lastBit x = f.lastBit y
  · -- both are rounded in the same unit
    have hpos := twoTo_pos (f.lastBit y)
    have hmono := nearestEven_mono (div_le_div_of_nonneg_right h hpos.le)
    rw [nearest, nearest, hunit]
    exact mul_le_mul_of_nonneg_right (by exact_mod_cast hmono) hpos.le
  · -- the leading bit of the larger number lies between them
    have hunits : f.minOrder < order y ∧ order x < order y := by
      rw [Format.lastBit, Format.lastBit] at hunit
      omega
    have hbelow : x ≤ (1 : Int) * twoTo (order y) := by
      have hlt := abs_lt_twoTo f x
      rw [abs_of_pos hx] at hlt
      have hle := twoTo_mono (a := max f.minOrder (order x) + 1) (b := order y) (by omega)
      push_cast
      linarith
    have habove : (1 : Int) * twoTo (order y) ≤ y := by
      have hle := (order_bounds hy.ne').1
      rw [abs_of_pos hy] at hle
      push_cast
      linarith
    have hlastX := lastBit_le hf x
    have hlastY := lastBit_le hf y
    exact (nearest_le hbelow (by omega)).trans (le_nearest habove (by omega))

/-- **Rounding keeps the order.** -/
theorem nearest_mono (hf : 0 < f.precision) (h : x ≤ y) : nearest f x ≤ nearest f y := by
  rcases lt_or_ge 0 x with hx | hx
  · exact nearest_mono_of_pos hf hx h
  · rcases lt_or_ge y 0 with hy | hy
    · have hneg := nearest_mono_of_pos hf (neg_pos.mpr hy) (neg_le_neg h)
      rw [nearest_neg, nearest_neg] at hneg
      linarith
    · exact (nearest_nonpos hx).trans (nearest_nonneg hy)

theorem nearest_nearest_of_pos (hf : 0 < f.precision) (hx : 0 < x) :
    nearest f (nearest f x) = nearest f x := by
  have hlast := lastBit_le hf x
  have hlt := abs_lt_twoTo f x
  rw [abs_of_pos hx] at hlt
  set e : Int := max f.minOrder (order x) + 1 with he
  have hle : nearest f x ≤ (1 : Int) * twoTo e :=
    nearest_le (by push_cast; linarith) (by omega)
  rcases (nearest_nonneg hx.le).eq_or_lt with hzero | hpos
  · rw [← hzero, nearest_zero]
  rcases hle.lt_or_eq with hbelow | htop
  · -- still below the next power of two, so written in the same unit as before
    have horder : order (nearest f x) < e := by
      by_contra hge
      have hsize := (order_bounds hpos.ne').1
      have hmono := twoTo_mono (not_lt.mp hge)
      rw [abs_of_pos hpos] at hsize
      push_cast at hbelow
      linarith
    refine nearest_of_multiple (k := nearestEven (x / twoTo (f.lastBit x)))
      (e := f.lastBit x) rfl ?_
    rw [Format.lastBit, Format.lastBit]
    omega
  · refine nearest_of_multiple (k := 1) (e := e) htop ?_
    have hlead : order (nearest f x) = e := by
      have hexp := twoTo_pos e
      apply order_eq <;> rw [abs_of_pos hpos, htop] <;> push_cast <;> linarith
    have hlast' := lastBit_le hf (nearest f x)
    omega

/-- What is rounded already stays as it is. -/
theorem nearest_nearest (hf : 0 < f.precision) (x : ℚ) :
    nearest f (nearest f x) = nearest f x := by
  rcases lt_trichotomy x 0 with hx | rfl | hx
  · have hneg := nearest_nearest_of_pos hf (neg_pos.mpr hx)
    rwa [nearest_neg, nearest_neg, neg_inj] at hneg
  · rw [nearest_zero, nearest_zero]
  · exact nearest_nearest_of_pos hf hx

end

end PadMapping.Proofs
