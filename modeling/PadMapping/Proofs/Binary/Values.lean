import PadMapping.Proofs.Binary.Monotone

/-!
# Values of results

The operations on binary numbers have cases of their own for zeros, which have two signs, and for
the results that no number can stand for. None of them matters for the value of a result, as long as
the format has room for it: the value is the exact one, rounded. The order of numbers is the order
of their values.
-/

namespace PadMapping.Proofs

open Binary

variable {f : Format}

/-- The number has a value, and this value can be written in its format. -/
structure Holds (b : Binary f) (v : ℚ) : Prop where
  value : b.value? = some v
  exact : nearest f v = v

/-- The format has room for the number, once it is rounded. -/
def Fits (f : Format) (x : ℚ) : Prop := |nearest f x| ≤ f.largest

section

variable {a b : Binary f} {x u v : ℚ}

theorem holds_number (h : nearest f v = v) : Holds (.number v : Binary f) v := ⟨rfl, h⟩

theorem holds_zero (negative : Bool) : Holds (zero negative : Binary f) 0 := by
  refine ⟨?_, nearest_zero⟩
  cases negative <;> rfl

theorem round_eq (x : ℚ) : (round x : Binary f)
    = if f.largest < nearest f x then .infinity false
      else if nearest f x < -f.largest then .infinity true
      else if nearest f x = 0 ∧ x < 0 then .negativeZero
      else .number (nearest f x) := rfl

/-- **A result is the exact one, rounded.** -/
theorem holds_round (hf : 0 < f.precision) (h : Fits f x) :
    Holds (round x : Binary f) (nearest f x) := by
  refine ⟨?_, nearest_nearest hf x⟩
  obtain ⟨hlow, hhigh⟩ := abs_le.mp h
  rw [round_eq, if_neg (by linarith), if_neg (by linarith)]
  split_ifs with hzero
  · rw [hzero.1]
    rfl
  · rfl

/-- Only a zero can be written in two ways. -/
theorem eq_of_value? (h : b.value? = some v) : b = .number v ∨ b = .negativeZero ∧ v = 0 := by
  cases b with
  | nan | infinity _ => exact absurd h (by simp [value?])
  | negativeZero => exact .inr ⟨rfl, by simpa [value?] using h.symm⟩
  | number w =>
      injection h with h
      exact .inl (by rw [h])

theorem Holds.cases (h : Holds b v) : b = .number v ∨ b = .negativeZero ∧ v = 0 :=
  eq_of_value? h.value

theorem Holds.neg (h : Holds b v) : Holds b.neg (-v) := by
  refine ⟨?_, by rw [nearest_neg, h.exact]⟩
  rcases h.cases with rfl | ⟨rfl, rfl⟩
  · rw [Binary.neg]
    split_ifs with hzero
    · rw [hzero, neg_zero]
      rfl
    · rfl
  · rw [neg_zero]
    rfl

theorem Holds.add (hf : 0 < f.precision) (ha : Holds a u) (hb : Holds b v)
    (h : Fits f (u + v)) : Holds (a.add b) (nearest f (u + v)) := by
  have hround := holds_round hf h
  rcases ha.cases with rfl | ⟨rfl, rfl⟩ <;> rcases hb.cases with rfl | ⟨rfl, rfl⟩
  · exact hround
  · -- what is added to a zero was rounded before
    rw [add_zero, ha.exact]
    exact ha
  · rw [zero_add, hb.exact]
    exact hb
  · rw [add_zero, nearest_zero]
    exact holds_zero true

theorem Holds.sub (hf : 0 < f.precision) (ha : Holds a u) (hb : Holds b v)
    (h : Fits f (u - v)) : Holds (a.sub b) (nearest f (u - v)) := by
  rw [sub_eq_add_neg] at h ⊢
  exact ha.add hf hb.neg h

theorem Holds.mul (hf : 0 < f.precision) (ha : Holds a u) (hb : Holds b v)
    (h : Fits f (u * v)) : Holds (a.mul b) (nearest f (u * v)) := by
  have hround := holds_round hf h
  rcases ha.cases with rfl | ⟨rfl, rfl⟩ <;> rcases hb.cases with rfl | ⟨rfl, rfl⟩
  · rw [Binary.mul]
    split_ifs with hzero
    · rw [hzero, nearest_zero]
      exact holds_zero _
    · exact hround
  · rw [mul_zero, nearest_zero]
    exact holds_zero _
  · rw [zero_mul, nearest_zero]
    exact holds_zero _
  · rw [mul_zero, nearest_zero]
    exact holds_zero _

theorem Holds.div (hf : 0 < f.precision) (ha : Holds a u) (hb : Holds b v) (hv : v ≠ 0)
    (h : Fits f (u / v)) : Holds (a.div b) (nearest f (u / v)) := by
  have hround := holds_round hf h
  rcases hb.cases with rfl | ⟨_, rfl⟩
  · rcases ha.cases with rfl | ⟨rfl, rfl⟩
    · rw [Binary.div, if_neg hv]
      split_ifs with hzero
      · rw [hzero, zero_div, nearest_zero]
        exact holds_zero _
      · exact hround
    · rw [zero_div, nearest_zero, Binary.div, if_neg hv]
      exact holds_zero _
  · exact absurd rfl hv

/-- Nothing divided by nothing is no number. -/
theorem div_eq_nan (ha : Holds a 0) (hb : Holds b 0) : a.div b = .nan := by
  rcases ha.cases with rfl | ⟨rfl, _⟩ <;> rcases hb.cases with rfl | ⟨rfl, _⟩ <;> rfl

/-- Numbers are ordered by their values. -/
theorem lt_of_values (ha : a.value? = some u) (hb : b.value? = some v) :
    a.lt b = decide (u < v) := by
  rcases eq_of_value? ha with rfl | ⟨rfl, rfl⟩ <;> rcases eq_of_value? hb with rfl | ⟨rfl, rfl⟩ <;>
    simp [Binary.lt]

/-! ## Room -/

/-- No number is rounded past a number of the format. -/
theorem abs_nearest_le (hf : 0 < f.precision) (hv : nearest f v = v) (h : |x| ≤ v) :
    |nearest f x| ≤ v := by
  obtain ⟨hlow, hhigh⟩ := abs_le.mp h
  have hle := nearest_mono hf hhigh
  have hge := nearest_mono hf hlow
  rw [nearest_neg, hv] at hge
  rw [hv] at hle
  exact abs_le.mpr ⟨hge, hle⟩

end

/-- The format of 32 bits has room for all that is computed from numbers of 32 bits. -/
theorem fits_single {x : ℚ} (h : |x| ≤ 2 ^ 100) : Fits .single x := by
  have hlimit : nearest .single (2 ^ 100) = 2 ^ 100 := by decide +kernel
  have hlargest : (2 : ℚ) ^ 100 ≤ Format.single.largest := by decide +kernel
  exact (abs_nearest_le (by decide) hlimit h).trans hlargest

end PadMapping.Proofs
