import PadMapping.Proofs.Binary.Values
import PadMapping.Proofs.Device.Rest

/-!
# Readings of an axis on its scale

An axis is brought to its scale in five steps, each of which rounds: the value and the ends of the
range become binary numbers, the distance from the lower end is taken, divided by the length of the
range, and, for an axis with two directions, doubled and moved down by one. Every step keeps the
order of values, and so do all of them together: pushing an axis further never makes it read less.

The ends of the range stay apart as integers, but they may be rounded to the same number. The length
of the range is zero then, and what is read is no number.
-/

namespace PadMapping.Proofs

open Binary

/-! ## Whole numbers -/

/-- What an integer is as a number of 32 bits. -/
def whole (n : Int) : ℚ := nearest .single n

section

variable {m n : Int}

theorem whole_mono (h : m ≤ n) : whole m ≤ whole n :=
  nearest_mono (by decide) (by exact_mod_cast h)

theorem nearest_one : nearest .single 1 = 1 := by decide +kernel

theorem abs_whole_le (h : |n| ≤ 2 ^ 31) : |whole n| ≤ 2 ^ 31 :=
  abs_nearest_le (by decide) (by decide +kernel) (by exact_mod_cast h)

/-- An integer stays one. -/
theorem exists_int_eq_whole (h : |n| ≤ 2 ^ 31) :
    ∃ k : Int, whole n = k ∧ (Binary.ofInt n : Single) = .number (whole n) := by
  have hsize : |(n : ℚ)| ≤ 2 ^ 31 := by exact_mod_cast h
  have hround : Holds (Binary.ofInt n : Single) (whole n) :=
    holds_round (by decide) (fits_single (hsize.trans (by norm_num)))
  obtain ⟨k, hk, _⟩ := ofInt_eq_number (h.trans (by norm_num : (2 : Int) ^ 31 ≤ 2 ^ 100))
  have hvalue := hround.value
  rw [hk] at hvalue
  injection hvalue with hvalue
  exact ⟨k, hvalue.symm, hvalue ▸ hk⟩

theorem ofInt_eq (h : |n| ≤ 2 ^ 31) : (Binary.ofInt n : Single) = .number (whole n) := by
  obtain ⟨_, _, heq⟩ := exists_int_eq_whole h
  exact heq

theorem holds_ofInt (h : |n| ≤ 2 ^ 31) : Holds (Binary.ofInt n : Single) (whole n) :=
  ofInt_eq h ▸ holds_number (nearest_nearest (by decide) n)

end

/-! ## The steps -/

/-- The ends of the range are integers of 32 bits. -/
structure Reported (range : AxisRange) : Prop where
  least : -2 ^ 31 ≤ range.least
  greatest : range.greatest < 2 ^ 31

/-- The ends of the range are apart, but not as numbers of 32 bits. -/
structure Collapsed (range : AxisRange) : Prop where
  lt : range.least < range.greatest
  eq : (Binary.ofInt range.least : Single) = .ofInt range.greatest

/-- The value that is scaled: one outside the range counts as the nearest end. -/
def clamped (range : AxisRange) (value : Int) : Int :=
  max range.least (min value range.greatest)

/-- The distance of a value from the lower end of the range. -/
def distance (range : AxisRange) (value : Int) : ℚ :=
  nearest .single (whole value - whole range.least)

/-- The part of the range that lies below a value. -/
def share (range : AxisRange) (value : Int) : ℚ :=
  nearest .single (distance range (clamped range value) / distance range range.greatest)

/-- What a value reads as. -/
def scaled (range : AxisRange) (value : Int) : ℚ :=
  if range.unipolar then share range value
  else nearest .single (nearest .single (share range value * 2) - 1)

section

variable {range : AxisRange} {value v w : Int}

theorem distance_mono (h : v ≤ w) : distance range v ≤ distance range w :=
  nearest_mono (by decide) (by linarith [whole_mono h])

theorem distance_least : distance range range.least = 0 := by
  rw [distance, sub_self, nearest_zero]

theorem clamped_mono (h : v ≤ w) : clamped range v ≤ clamped range w := by
  rw [clamped, clamped]
  omega

theorem clamped_bounds (h : range.least < range.greatest) (value : Int) :
    range.least ≤ clamped range value ∧ clamped range value ≤ range.greatest := by
  rw [clamped]
  omega

theorem abs_le_of_bounds (hr : Reported range) (hlow : range.least ≤ value)
    (hhigh : value ≤ range.greatest) : |value| ≤ 2 ^ 31 := by
  have hleast := hr.least
  have hgreatest := hr.greatest
  rw [abs_le]
  omega

theorem Ranged.reported (h : Ranged range) : Reported range := ⟨h.least, h.greatest⟩

theorem Ranged.whole_lt (h : Ranged range) : whole range.least < whole range.greatest := by
  have hlow := holds_ofInt (abs_le_of_bounds h.reported le_rfl h.lt.le)
  have hhigh := holds_ofInt (abs_le_of_bounds h.reported h.lt.le le_rfl)
  simpa [lt_of_values hlow.value hhigh.value] using h.rounded_lt

theorem distance_pos (h : Ranged range) : 0 < distance range range.greatest := by
  obtain ⟨l, hl, _⟩ := exists_int_eq_whole (abs_le_of_bounds h.reported le_rfl h.lt.le)
  obtain ⟨g, hg, _⟩ := exists_int_eq_whole (abs_le_of_bounds h.reported h.lt.le le_rfl)
  have hlt := h.whole_lt
  rw [hl, hg] at hlt
  have hstep : l + 1 ≤ g := by exact_mod_cast hlt
  have hge : nearest .single 1 ≤ nearest .single ((g : ℚ) - l) :=
    nearest_mono (by decide) (by
      have hstep' : (l : ℚ) + 1 ≤ g := by exact_mod_cast hstep
      linarith)
  rw [nearest_one] at hge
  rw [distance, hl, hg]
  linarith

theorem ratio_bounds (h : Ranged range) (value : Int) :
    0 ≤ distance range (clamped range value) / distance range range.greatest
      ∧ distance range (clamped range value) / distance range range.greatest ≤ 1 := by
  obtain ⟨hlow, hhigh⟩ := clamped_bounds h.lt value
  have hpos := distance_pos h
  have hnonneg : distance range range.least ≤ distance range (clamped range value) :=
    distance_mono hlow
  rw [distance_least] at hnonneg
  exact ⟨div_nonneg hnonneg hpos.le, (div_le_one hpos).mpr (distance_mono hhigh)⟩

/-- The part of the range below a value is neither less than nothing nor more than all of it. -/
theorem share_bounds (h : Ranged range) (value : Int) :
    0 ≤ share range value ∧ share range value ≤ 1 := by
  obtain ⟨hlow, hhigh⟩ := ratio_bounds h value
  exact ⟨nearest_nonneg hlow, (nearest_mono (by decide) hhigh).trans_eq nearest_one⟩

theorem doubled_bounds (h : Ranged range) (value : Int) :
    0 ≤ nearest .single (share range value * 2)
      ∧ nearest .single (share range value * 2) ≤ 2 := by
  obtain ⟨hlow, hhigh⟩ := share_bounds h value
  have htwo : nearest .single 2 = 2 := by decide +kernel
  exact ⟨nearest_nonneg (by linarith), (nearest_mono (by decide) (by linarith)).trans_eq htwo⟩

theorem share_mono (h : Ranged range) (hle : v ≤ w) : share range v ≤ share range w :=
  nearest_mono (by decide)
    (div_le_div_of_nonneg_right (distance_mono (clamped_mono hle)) (distance_pos h).le)

theorem share_of_ge (h : Ranged range) (hvalue : range.greatest ≤ value) :
    share range value = 1 := by
  have hclamped : clamped range value = range.greatest := by
    have hlt := h.lt
    rw [clamped]
    omega
  rw [share, hclamped, div_self (distance_pos h).ne']
  decide +kernel

/-- Every value reads as a number of the scale. -/
theorem scaled_bounds (h : Ranged range) (value : Int) :
    (if range.unipolar then 0 else -1) ≤ scaled range value ∧ scaled range value ≤ 1 := by
  rw [scaled]
  split
  · exact share_bounds h value
  · obtain ⟨hlow, hhigh⟩ := doubled_bounds h value
    exact abs_le.mp (abs_nearest_le (by decide) nearest_one
      (abs_le.mpr ⟨by linarith, by linarith⟩))

theorem scaled_mono (h : Ranged range) (hle : v ≤ w) : scaled range v ≤ scaled range w := by
  have hshare := share_mono h hle
  rw [scaled, scaled]
  split
  · exact hshare
  · have hdouble : nearest .single (share range v * 2) ≤ nearest .single (share range w * 2) :=
      nearest_mono (by decide) (by linarith)
    exact nearest_mono (by decide) (by linarith)

theorem scaled_of_ge (h : Ranged range) (hvalue : range.greatest ≤ value) :
    scaled range value = 1 := by
  rw [scaled, share_of_ge h hvalue]
  split
  · rfl
  · decide +kernel

/-! ## The reading -/

theorem holds_distance (hvalue : |value| ≤ 2 ^ 31) (hleast : |range.least| ≤ 2 ^ 31) :
    Holds ((Binary.ofInt value : Single).sub (.ofInt range.least)) (distance range value) := by
  have hv := abs_le.mp (abs_whole_le hvalue)
  have hl := abs_le.mp (abs_whole_le hleast)
  exact (holds_ofInt hvalue).sub (by decide) (holds_ofInt hleast)
    (fits_single (abs_le.mpr ⟨by linarith, by linarith⟩))

/-- **What is read is what the steps give.** -/
theorem holds_normalize (h : Ranged range) (value : Int) :
    Holds (range.normalize value) (scaled range value) := by
  obtain ⟨hlow, hhigh⟩ := clamped_bounds h.lt value
  have hleast := abs_le_of_bounds h.reported le_rfl h.lt.le
  have hpart := holds_distance (abs_le_of_bounds h.reported hlow hhigh) hleast
  have hall := holds_distance (abs_le_of_bounds h.reported h.lt.le le_rfl) hleast
  obtain ⟨hratioLow, hratioHigh⟩ := ratio_bounds h value
  have hshare : Holds _ (share range value) := hpart.div (by decide) hall (distance_pos h).ne'
    (fits_single (abs_le.mpr ⟨by linarith, by linarith⟩))
  rw [AxisRange.normalize, if_neg (not_le.mpr h.lt), scaled]
  split
  · exact hshare
  · obtain ⟨hshareLow, hshareHigh⟩ := share_bounds h value
    obtain ⟨hdoubleLow, hdoubleHigh⟩ := doubled_bounds h value
    have htwo : Holds (Binary.ofInt 2 : Single) 2 := ⟨by decide +kernel, by decide +kernel⟩
    have hone : Holds (Binary.ofInt 1 : Single) 1 := ⟨by decide +kernel, nearest_one⟩
    have hdouble := hshare.mul (by decide) htwo
      (fits_single (abs_le.mpr ⟨by linarith, by linarith⟩))
    exact hdouble.sub (by decide) hone (fits_single (abs_le.mpr ⟨by linarith, by linarith⟩))

/-- If the ends of the range are rounded to the same number, so is all between them, and nothing is
divided by nothing. -/
theorem normalize_of_collapsed (hr : Reported range) (h : Collapsed range) (value : Int) :
    range.normalize value = .nan := by
  obtain ⟨hlow, hhigh⟩ := clamped_bounds h.lt value
  have hends : whole range.least = whole range.greatest := by
    have heq := h.eq
    rw [ofInt_eq (abs_le_of_bounds hr le_rfl h.lt.le),
      ofInt_eq (abs_le_of_bounds hr h.lt.le le_rfl)] at heq
    injection heq
  have hinside : whole (clamped range value) = whole range.least :=
    le_antisymm (hends ▸ whole_mono hhigh) (whole_mono hlow)
  have habs := abs_le_of_bounds hr le_rfl h.lt.le
  have hpart := holds_distance (abs_le_of_bounds hr hlow hhigh) habs
  have hall := holds_distance (abs_le_of_bounds hr h.lt.le le_rfl) habs
  rw [distance, hinside, sub_self, nearest_zero] at hpart
  rw [distance, ← hends, sub_self, nearest_zero] at hall
  have hnan := div_eq_nan hpart hall
  rw [clamped] at hnan
  rw [AxisRange.normalize, if_neg (not_le.mpr h.lt)]
  simp only [hnan]
  split <;> rfl

theorem reported_cases (hr : Reported range) :
    range.greatest ≤ range.least ∨ Collapsed range ∨ Ranged range := by
  rcases le_or_gt range.greatest range.least with hempty | hlt
  · exact .inl hempty
  right
  have hleast := ofInt_eq (abs_le_of_bounds hr le_rfl hlt.le)
  have hgreatest := ofInt_eq (abs_le_of_bounds hr hlt.le le_rfl)
  rcases (whole_mono hlt.le).lt_or_eq with hapart | hsame
  · refine .inr ⟨hr.least, hr.greatest, hlt, ?_⟩
    rw [hleast, hgreatest]
    exact decide_eq_true hapart
  · exact .inl ⟨hlt, by rw [hleast, hgreatest, hsame]⟩

theorem normalize_of_empty (h : range.greatest ≤ range.least) (value : Int) :
    range.normalize value = .number 0 := by
  rw [AxisRange.normalize, if_pos h]

theorem Ranged.not_collapsed (h : Ranged range) : ¬Collapsed range := by
  intro hcollapsed
  have hleast := holds_ofInt (abs_le_of_bounds h.reported le_rfl h.lt.le)
  have hlt := h.rounded_lt
  rw [← hcollapsed.eq, lt_of_values hleast.value hleast.value] at hlt
  simp at hlt

/--
**An axis reads as a number of its scale, unless its range has collapsed.**

If the ends of the range are apart, but rounded to the same number, every value reads as no number.
Otherwise every value reads as a number that is at most 1, and at least 0 if the axis has only one
direction, or -1 if it has two.
-/
theorem normalize_within (hr : Reported range) (value : Int) :
    (range.normalize value = .nan ↔ Collapsed range)
      ∧ (¬Collapsed range → ∃ x, (range.normalize value).value? = some x
        ∧ (if range.unipolar then 0 else -1) ≤ x ∧ x ≤ 1) := by
  rcases reported_cases hr with hempty | hcollapsed | hranged
  · have hzero := normalize_of_empty hempty value
    refine ⟨⟨fun h => absurd (hzero.symm.trans h) (by simp), ?_⟩, fun _ => ⟨0, ?_, ?_, ?_⟩⟩
    · exact fun h => absurd h.lt (not_lt.mpr hempty)
    · rw [hzero]
      rfl
    · split <;> norm_num
    · norm_num
  · exact ⟨iff_of_true (normalize_of_collapsed hr hcollapsed value) hcollapsed,
      fun h => absurd hcollapsed h⟩
  · have hholds := holds_normalize hranged value
    refine ⟨iff_of_false ?_ hranged.not_collapsed, fun _ => ⟨_, hholds.value, ?_⟩⟩
    · intro hnan
      have hvalue := hholds.value
      rw [hnan] at hvalue
      exact absurd hvalue (by simp [value?])
    · exact scaled_bounds hranged value

end

/-- A stick between its ends, whose range is not collapsed. -/
theorem normalize_within_stick :
    Reported ⟨-32768, 32767, false⟩ ∧ ¬Collapsed ⟨-32768, 32767, false⟩
      ∧ ∃ x, ((⟨-32768, 32767, false⟩ : AxisRange).normalize 20000).value? = some x
        ∧ -1 ≤ x ∧ x ≤ 1 := by
  have hr : Reported ⟨-32768, 32767, false⟩ := ⟨by decide, by decide⟩
  have hapart : ¬Collapsed ⟨-32768, 32767, false⟩ := fun h => absurd h.eq (by decide +kernel)
  exact ⟨hr, hapart, (normalize_within hr 20000).2 hapart⟩

/-- Two neighbouring integers that are one number of 32 bits: the upper one reads as no number. -/
theorem normalize_of_neighbours :
    (⟨16777216, 16777217, false⟩ : AxisRange).normalize 16777217 = .nan := by
  decide +kernel

/-! ## Pushing an axis further -/

section

variable {range : AxisRange} {v w : Int} {threshold x : Single} {s t : ℚ}

theorem deflection?_nan : deflection? threshold .nan = none := by
  cases threshold <;> rfl

/-- An axis can be past a threshold above zero on one side only. -/
theorem deflection?_of_value (ht : 0 < t) (hx : x.value? = some s) :
    (deflection? (.number t) x = some .positive ↔ t < s)
      ∧ (deflection? (.number t) x = some .negative ↔ s < -t) := by
  have hneg : (Binary.number t : Single).neg.value? = some (-t) := by
    rw [Binary.neg, if_neg ht.ne']
    rfl
  rw [deflection?, lt_of_values rfl hx, lt_of_values hx hneg]
  simp only [decide_eq_true_eq]
  split_ifs with hplus hminus
  · exact ⟨iff_of_true rfl hplus, iff_of_false (by simp) (by linarith)⟩
  · exact ⟨iff_of_false (by simp) hplus, iff_of_true rfl hminus⟩
  · exact ⟨iff_of_false (by simp) hplus, iff_of_false (by simp) hminus⟩

/-- How an axis with the given range reads at two values, the first of which is not greater. -/
structure Ordered (range : AxisRange) (threshold : Single) (v w : Int) : Prop where
  /-- The greater value does not read less. -/
  not_lt : (range.normalize w).lt (range.normalize v) = false
  /-- It is past the threshold if the other one is. -/
  positive : deflection? threshold (range.normalize v) = some .positive →
    deflection? threshold (range.normalize w) = some .positive
  /-- On the other side it is the other way round. -/
  negative : deflection? threshold (range.normalize w) = some .negative →
    deflection? threshold (range.normalize v) = some .negative
  /-- An axis with one direction is never past the threshold on the other side. -/
  unipolar : range.unipolar = true → deflection? threshold (range.normalize v) ≠ some .negative
  /-- At the lower end of its range, an axis reads as it does when it is let go or pulled fully. -/
  least : Ranged range → v ≤ range.least →
    range.normalize v = if range.unipolar then .number 0 else .number (-1)
  /-- At the upper end it reads as pushed fully. -/
  greatest : Ranged range → range.greatest ≤ w → range.normalize w = .number 1

/-- Where all values read the same, and this is past no threshold, there is nothing to order. -/
theorem ordered_of_constant (hconstant : ∀ value, range.normalize value = x)
    (hlt : x.lt x = false) (hnone : deflection? threshold x = none) (hrange : ¬Ranged range) :
    Ordered range threshold v w := by
  constructor
  · rw [hconstant, hconstant, hlt]
  · rw [hconstant, hconstant]
    exact id
  · rw [hconstant, hconstant]
    exact id
  · rw [hconstant, hnone]
    exact fun _ => by simp
  · exact fun h => absurd h hrange
  · exact fun h => absurd h hrange

theorem ordered_of_ranged (h : Ranged range) (hthreshold : Between threshold) (hle : v ≤ w) :
    Ordered range threshold v w := by
  have hv := (holds_normalize h v).value
  have hw := (holds_normalize h w).value
  have hmono := scaled_mono h hle
  obtain ⟨t, rfl, ht, _⟩ := hthreshold.exists_number
  obtain ⟨hpositive, hnegative⟩ := deflection?_of_value ht hv
  obtain ⟨hpositive', hnegative'⟩ := deflection?_of_value ht hw
  refine ⟨?_, ?_, ?_, ?_, fun _ hvalue => normalize_of_le h hvalue, ?_⟩
  · rw [lt_of_values hw hv]
    exact decide_eq_false (not_lt.mpr hmono)
  · rw [hpositive, hpositive']
    exact fun hlt => hlt.trans_le hmono
  · rw [hnegative, hnegative']
    exact fun hlt => hmono.trans_lt hlt
  · intro hunipolar hdeflection
    have hbounds := (scaled_bounds h v).1
    rw [if_pos hunipolar] at hbounds
    have hlt := hnegative.mp hdeflection
    linarith
  · intro _ hvalue
    rw [scaled_of_ge h hvalue] at hw
    rcases eq_of_value? hw with hone | ⟨_, hzero⟩
    · exact hone
    · exact absurd hzero (by norm_num)

/--
**Pushing an axis further never makes it read less.**

Whatever range a device reports for an axis, and wherever the threshold is: the greater of two
values does not read less, and is past the threshold if the other one is. An axis with one direction
is never past the threshold on the other side. If the range has not collapsed, the axis reaches both
ends of its scale, at the ends of the range and beyond them.
-/
theorem normalize_ordered (hr : Reported range) (hthreshold : Between threshold) (hle : v ≤ w) :
    Ordered range threshold v w := by
  rcases reported_cases hr with hempty | hcollapsed | hranged
  · refine ordered_of_constant (normalize_of_empty hempty) rfl (deflection?_zero hthreshold) ?_
    exact fun h => absurd h.lt (not_lt.mpr hempty)
  · exact ordered_of_constant (normalize_of_collapsed hr hcollapsed) rfl deflection?_nan
      fun h => h.not_collapsed hcollapsed
  · exact ordered_of_ranged hranged hthreshold hle

/-- A stick that is past the threshold stays past it when it is pushed to the end of its range. -/
theorem normalize_ordered_stick :
    let range : AxisRange := ⟨-32768, 32767, false⟩
    Reported range ∧ Between defaultThreshold
      ∧ deflection? defaultThreshold (range.normalize 30000) = some .positive
      ∧ deflection? defaultThreshold (range.normalize 32767) = some .positive
      ∧ range.normalize 32767 = .number 1 := by
  intro range
  have hr : Reported range := ⟨by decide, by decide⟩
  have hthreshold : Between defaultThreshold := ⟨by decide +kernel, by decide +kernel⟩
  have hranged : Ranged range := ⟨by decide, by decide, by decide, by decide +kernel⟩
  have hpushed : deflection? defaultThreshold (range.normalize 30000) = some .positive := by
    decide +kernel
  have hordered := normalize_ordered hr hthreshold (v := 30000) (w := 32767) (by decide)
  exact ⟨hr, hthreshold, hpushed, hordered.positive hpushed, hordered.greatest hranged le_rfl⟩

end

end PadMapping.Proofs
