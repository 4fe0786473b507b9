import PadMapping.Reading

/-!
# Which control a reading shows

A reading is looked through from the front, its buttons before its axes, and the first thing that is
active is the control that it shows. So what a reading shows is a statement about first places: that
of the first pressed button, or, if no button is pressed, that of the first axis past the threshold.

An axis can be past the threshold on both sides if the threshold is below zero, and a value that is
no number is past none. Nothing is assumed about either here.
-/

namespace PadMapping.Proofs

/-! ## First places -/

/-- `i` is the first place in the list at which something with `p` stands. -/
structure FirstAt {α : Type} (p : α → Prop) (xs : List α) (i : Nat) : Prop where
  here : ∃ x, xs[i]? = some x ∧ p x
  earlier : ∀ j x, j < i → xs[j]? = some x → ¬ p x

section

variable {α : Type} {p : α → Prop} {x : α} {xs : List α} {i : Nat}

theorem FirstAt.lt_length (h : FirstAt p xs i) : i < xs.length := by
  obtain ⟨x, hx, _⟩ := h.here
  exact (List.getElem?_eq_some_iff.mp hx).1

/-- Up to a place, a list does not change when what stands behind that place does. -/
theorem getElem?_take_append {j : Nat} (hi : i < xs.length) (hj : j ≤ i) (ys : List α) :
    (xs.take (i + 1) ++ ys)[j]? = xs[j]? := by
  rw [List.getElem?_append_left (by rw [List.length_take]; omega),
    List.getElem?_take_of_lt (by omega)]

theorem FirstAt.take_append (h : FirstAt p xs i) (ys : List α) :
    FirstAt p (xs.take (i + 1) ++ ys) i := by
  constructor
  · rw [getElem?_take_append h.lt_length (Nat.le_refl i)]
    exact h.here
  · intro j y hj hy
    rw [getElem?_take_append h.lt_length (Nat.le_of_lt hj)] at hy
    exact h.earlier j y hj hy

theorem firstAt_zero : FirstAt p (x :: xs) 0 ↔ p x := by
  constructor
  · intro h
    obtain ⟨y, hy, hp⟩ := h.here
    injection hy with hy
    rwa [hy]
  · exact fun h => ⟨⟨x, rfl, h⟩, fun j y hj => absurd hj (Nat.not_lt_zero j)⟩

theorem firstAt_succ : FirstAt p (x :: xs) (i + 1) ↔ ¬ p x ∧ FirstAt p xs i := by
  constructor
  · intro h
    refine ⟨h.earlier 0 x (Nat.succ_pos i) rfl, h.here, ?_⟩
    intro j y hj hy
    exact h.earlier (j + 1) y (Nat.succ_lt_succ hj) hy
  · rintro ⟨hx, hhere, hearlier⟩
    refine ⟨hhere, ?_⟩
    intro j y hj hy
    cases j with
    | zero =>
        injection hy with hy
        rwa [← hy]
    | succ j => exact hearlier j y (Nat.lt_of_succ_lt_succ hj) hy

end

theorem findIdx?_eq_some_iff_firstAt {buttons : List Bool} {i : Nat} :
    buttons.findIdx? id = some i ↔ FirstAt (· = true) buttons i := by
  rw [List.findIdx?_eq_some_iff_getElem]
  constructor
  · rintro ⟨hi, hpressed, hearlier⟩
    refine ⟨⟨true, List.getElem?_eq_some_iff.mpr ⟨hi, hpressed⟩, rfl⟩, ?_⟩
    intro j b hj hb
    obtain ⟨_, rfl⟩ := List.getElem?_eq_some_iff.mp hb
    exact hearlier j hj
  · intro h
    obtain ⟨b, hb, rfl⟩ := h.here
    obtain ⟨hi, hpressed⟩ := List.getElem?_eq_some_iff.mp hb
    exact ⟨hi, hpressed, fun j hj => h.earlier j _ hj (List.getElem?_eq_getElem _)⟩

theorem findIdx?_eq_none_iff_released {buttons : List Bool} :
    buttons.findIdx? id = none ↔ ∀ b ∈ buttons, b = false := by
  simp

/-! ## Axes past the threshold -/

section

variable {threshold value : Single} {axes : List Single}

/-- An axis with this value is past the threshold, on one side or the other. -/
def Past (threshold value : Single) : Prop :=
  threshold.lt value = true ∨ value.lt threshold.neg = true

theorem deflection?_eq_positive_iff :
    deflection? threshold value = some .positive ↔ threshold.lt value = true := by
  cases hplus : threshold.lt value <;> cases hminus : value.lt threshold.neg <;>
    simp [deflection?, hplus, hminus]

theorem deflection?_eq_negative_iff :
    deflection? threshold value = some .negative
      ↔ threshold.lt value = false ∧ value.lt threshold.neg = true := by
  cases hplus : threshold.lt value <;> cases hminus : value.lt threshold.neg <;>
    simp [deflection?, hplus, hminus]

theorem deflection?_eq_none_iff : deflection? threshold value = none ↔ ¬ Past threshold value := by
  cases hplus : threshold.lt value <;> cases hminus : value.lt threshold.neg <;>
    simp [deflection?, Past, hplus, hminus]

theorem past_of_deflection? {direction : Direction}
    (h : deflection? threshold value = some direction) : Past threshold value := by
  cases direction with
  | positive => exact Or.inl (deflection?_eq_positive_iff.mp h)
  | negative => exact Or.inr (deflection?_eq_negative_iff.mp h).2

theorem deflected?_eq_none_iff {start : Nat} :
    deflected? threshold start axes = none ↔ ∀ x ∈ axes, deflection? threshold x = none := by
  induction axes generalizing start with
  | nil => simp [deflected?]
  | cons x axes ih =>
      rw [deflected?]
      cases hx : deflection? threshold x with
      | none => simp [hx, ih]
      | some direction => simp [hx]

/-- **The first axis past the threshold.** -/
theorem deflected?_eq_some_iff {start : Nat} {control : Control} :
    deflected? threshold start axes = some control
      ↔ ∃ i x direction, control = .axis (start + i) direction
        ∧ FirstAt (Past threshold) axes i ∧ axes[i]? = some x
        ∧ deflection? threshold x = some direction := by
  -- for every number at which the counting starts, since it goes up along the list
  induction axes generalizing start with
  | nil => simp [deflected?]
  | cons x axes ih =>
      rw [deflected?]
      cases hx : deflection? threshold x with
      | none =>
          have hpast := deflection?_eq_none_iff.mp hx
          dsimp only
          rw [ih]
          constructor
          · rintro ⟨i, y, direction, rfl, hfirst, hy, hdirection⟩
            exact ⟨i + 1, y, direction, by rw [Nat.add_assoc, Nat.add_comm 1],
              firstAt_succ.mpr ⟨hpast, hfirst⟩, hy, hdirection⟩
          · rintro ⟨i, y, direction, rfl, hfirst, hy, hdirection⟩
            cases i with
            | zero => exact absurd (firstAt_zero.mp hfirst) hpast
            | succ i =>
                exact ⟨i, y, direction, by rw [Nat.add_assoc, Nat.add_comm 1],
                  (firstAt_succ.mp hfirst).2, hy, hdirection⟩
      | some side =>
          have hpast := past_of_deflection? hx
          dsimp only
          constructor
          · intro h
            injection h with h
            exact ⟨0, x, side, h.symm, firstAt_zero.mpr hpast, rfl, hx⟩
          · rintro ⟨i, y, direction, rfl, hfirst, hy, hdirection⟩
            cases i with
            | zero =>
                injection hy with hy
                rw [← hy, hx] at hdirection
                injection hdirection with hdirection
                rw [hdirection]
                rfl
            | succ i => exact absurd hpast (firstAt_succ.mp hfirst).1

end

/-! ## Controls -/

section

variable {buttons : List Bool} {axes : List Single} {threshold : Single} {i : Nat}
  {direction : Direction}

theorem activeControl?_of_released (h : ∀ b ∈ buttons, b = false) :
    activeControl? buttons axes threshold = deflected? threshold 0 axes := by
  rw [activeControl?, findIdx?_eq_none_iff_released.mpr h]

theorem activeControl?_of_pressed (h : FirstAt (· = true) buttons i) :
    activeControl? buttons axes threshold = some (.button i) := by
  rw [activeControl?, findIdx?_eq_some_iff_firstAt.mpr h]

/-- Some button is the first pressed one, or none is pressed. -/
theorem pressed_or_released (buttons : List Bool) :
    (∃ i, FirstAt (· = true) buttons i) ∨ ∀ b ∈ buttons, b = false := by
  cases h : buttons.findIdx? id with
  | none => exact Or.inr (findIdx?_eq_none_iff_released.mp h)
  | some i => exact Or.inl ⟨i, findIdx?_eq_some_iff_firstAt.mp h⟩

theorem not_released_of_pressed (h : FirstAt (· = true) buttons i) :
    ¬ ∀ b ∈ buttons, b = false := by
  intro hreleased
  obtain ⟨b, hb, rfl⟩ := h.here
  exact absurd (hreleased true (List.mem_of_getElem? hb)) (by simp)

theorem activeControl?_eq_button_iff :
    activeControl? buttons axes threshold = some (.button i) ↔ FirstAt (· = true) buttons i := by
  refine ⟨fun h => ?_, activeControl?_of_pressed⟩
  rcases pressed_or_released buttons with ⟨k, hk⟩ | hreleased
  · rw [activeControl?_of_pressed hk] at h
    injection h with h
    injection h with h
    rwa [← h]
  · -- without a pressed button, what is found is an axis
    rw [activeControl?_of_released hreleased] at h
    obtain ⟨_, _, _, h, _⟩ := deflected?_eq_some_iff.mp h
    exact Control.noConfusion h

theorem activeControl?_eq_axis_iff :
    activeControl? buttons axes threshold = some (.axis i direction)
      ↔ (∀ b ∈ buttons, b = false) ∧ FirstAt (Past threshold) axes i
        ∧ ∃ x, axes[i]? = some x ∧ deflection? threshold x = some direction := by
  rcases pressed_or_released buttons with ⟨k, hk⟩ | hreleased
  · rw [activeControl?_of_pressed hk]
    exact iff_of_false (by simp) fun h => not_released_of_pressed hk h.1
  · rw [activeControl?_of_released hreleased, deflected?_eq_some_iff]
    constructor
    · rintro ⟨k, x, side, hcontrol, hfirst, hx, hside⟩
      rw [Nat.zero_add] at hcontrol
      injection hcontrol with hindex hdirection
      subst hindex hdirection
      exact ⟨hreleased, hfirst, x, hx, hside⟩
    · rintro ⟨_, hfirst, x, hx, hside⟩
      exact ⟨i, x, direction, by rw [Nat.zero_add], hfirst, hx, hside⟩

theorem activeControl?_eq_none_iff :
    activeControl? buttons axes threshold = none
      ↔ (∀ b ∈ buttons, b = false) ∧ ∀ x ∈ axes, deflection? threshold x = none := by
  rcases pressed_or_released buttons with ⟨k, hk⟩ | hreleased
  · rw [activeControl?_of_pressed hk]
    exact iff_of_false (by simp) fun h => not_released_of_pressed hk h.1
  · rw [activeControl?_of_released hreleased, deflected?_eq_none_iff]
    exact ⟨fun h => ⟨hreleased, h⟩, fun h => h.2⟩

/-- A reading is neutral if no button is pressed and no axis is past the threshold. -/
theorem isNeutral_iff {r : Reading} :
    r.isNeutral threshold = true
      ↔ (∀ b ∈ r.buttons, b = false) ∧ ∀ x ∈ r.axes, deflection? threshold x = none := by
  rw [Reading.isNeutral, Reading.active?, Option.isNone_iff_eq_none]
  exact activeControl?_eq_none_iff

end

/--
**The control that a reading shows is the first one that is active.**

For all states of buttons and axes, and every threshold:

- The control is a button exactly if it is the first pressed one.
- It is an axis exactly if no button is pressed and the axis is the first one that is past the
  threshold on either side. The side is the positive one if the axis is past the threshold there.
- There is no control, and the reading is neutral, exactly if no button is pressed and no axis is
  past the threshold on either side.
- The control has its place in the reading, and what stands behind it there does not matter; axes
  do not matter at all if the control is a button.
-/
theorem active_iff_first (buttons : List Bool) (axes : List Single) (threshold : Single) :
    let found := activeControl? buttons axes threshold
    (∀ i, found = some (.button i) ↔ FirstAt (· = true) buttons i)
      ∧ (∀ i, found = some (.axis i .positive)
        ↔ (∀ b ∈ buttons, b = false) ∧ FirstAt (Past threshold) axes i
          ∧ ∃ x, axes[i]? = some x ∧ threshold.lt x = true)
      ∧ (∀ i, found = some (.axis i .negative)
        ↔ (∀ b ∈ buttons, b = false) ∧ FirstAt (Past threshold) axes i
          ∧ ∃ x, axes[i]? = some x ∧ threshold.lt x = false ∧ x.lt threshold.neg = true)
      ∧ (found = none ↔ (∀ b ∈ buttons, b = false) ∧ ∀ x ∈ axes, ¬ Past threshold x)
      ∧ (∀ identity, (⟨identity, buttons, axes⟩ : Reading).active? threshold = found
        ∧ ((⟨identity, buttons, axes⟩ : Reading).isNeutral threshold = true ↔ found = none))
      ∧ (∀ i, found = some (.button i) → i < buttons.length ∧ ∀ more others,
          activeControl? (buttons.take (i + 1) ++ more) others threshold = found)
      ∧ ∀ i direction, found = some (.axis i direction) → i < axes.length ∧ ∀ more,
          activeControl? buttons (axes.take (i + 1) ++ more) threshold = found := by
  intro found
  refine ⟨fun i => activeControl?_eq_button_iff, fun i => ?_, fun i => ?_, ?_, ?_, ?_, ?_⟩
  · simp only [found, activeControl?_eq_axis_iff, deflection?_eq_positive_iff]
  · simp only [found, activeControl?_eq_axis_iff, deflection?_eq_negative_iff]
  · simp only [found, ← deflection?_eq_none_iff]
    exact activeControl?_eq_none_iff
  · exact fun identity => ⟨rfl, Option.isNone_iff_eq_none⟩
  · intro i h
    have hfirst := activeControl?_eq_button_iff.mp h
    refine ⟨hfirst.lt_length, fun more others => ?_⟩
    rw [h, activeControl?_of_pressed (hfirst.take_append more)]
  · intro i direction h
    obtain ⟨hreleased, hfirst, x, hx, hdirection⟩ := activeControl?_eq_axis_iff.mp h
    refine ⟨hfirst.lt_length, fun more => ?_⟩
    rw [h, activeControl?_eq_axis_iff]
    refine ⟨hreleased, hfirst.take_append more, x, ?_, hdirection⟩
    rw [getElem?_take_append hfirst.lt_length (Nat.le_refl i), hx]

/-- A pushed axis does not show while a button is pressed, and a later one not while an earlier one
is pushed. -/
example : activeControl? [false, true] [.number 1] defaultThreshold = some (.button 1)
    ∧ activeControl? [false] [.nan, .number (-1), .number 1] defaultThreshold
      = some (.axis 1 .negative) := by
  decide +kernel

end PadMapping.Proofs
