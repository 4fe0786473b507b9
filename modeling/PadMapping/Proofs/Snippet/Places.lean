import PadMapping.Snippet.Meaning

/-!
# What a mapper function puts where

An export says for each of its places what should stand there, always in terms of the raw state.
This module shows that the mapper function for an export does that, for an export that names no
place twice.

The one thing to see is why an assignment can be left out. A place that should hold what the raw
state has there already holds it, because the function starts from a copy of the raw state and no
earlier assignment was about that place. Everything else follows from what a single assignment
does: it gives its own place the wanted value and touches no other.
-/

namespace PadMapping.Proofs

open Snippet

variable {Button Axis : Type}

/-! ## Making a mapper function -/

theorem index_of_ofIndex? {target : Target} {index : Nat} {slot : Slot target}
    (h : Slot.ofIndex? target index = some slot) : slot.index = index := by
  rw [Slot.ofIndex?] at h
  split at h
  · injection h with h
    subst h
    rfl
  · exact absurd h (by simp)

/-- What adding the result of a step can come to: the place of the step has a slot, and the mapper
function is extended for it. -/
theorem assign_cases {m m' : Mapper} {a : Assignment} (h : m.assign a = .ok m') :
    (∃ slot : Slot .button, a.step.target = .button ∧ slot.index = a.step.index
        ∧ m' = m.assignButton slot a.control)
      ∨ ∃ slot : Slot .axis, a.step.target = .axis ∧ slot.index = a.step.index
        ∧ m' = m.assignAxis slot a.control := by
  rw [Mapper.assign] at h
  cases htarget : a.step.target with
  | button =>
      rw [htarget] at h
      dsimp only at h
      split at h
      · rename_i slot hs
        injection h with h
        exact Or.inl ⟨slot, rfl, index_of_ofIndex? hs, h.symm⟩
      · exact absurd h (by simp)
  | axis =>
      rw [htarget] at h
      dsimp only at h
      split at h
      · rename_i slot hs
        injection h with h
        exact Or.inr ⟨slot, rfl, index_of_ofIndex? hs, h.symm⟩
      · exact absurd h (by simp)

/-- **Induction over the steps of an export.** What holds of the empty mapper function, and is kept
when the result of one more step is added, holds of the mapper function for an export. -/
theorem ofExport_induction {P : List Assignment → Mapper → Prop} (init : P [] .identity)
    (step : ∀ {done : List Assignment} {m m' : Mapper} {a : Assignment},
      P done m → m.assign a = .ok m' → P (done ++ [a]) m')
    {e : Export} {m : Mapper} (h : Mapper.ofExport e = .ok m) : P e.assignments m := by
  have hrun : ∀ (rest done : List Assignment) (m₀ : Mapper), P done m₀ →
      rest.foldlM Mapper.assign m₀ = .ok m → P (done ++ rest) m := by
    intro rest
    induction rest with
    | nil =>
        intro done m₀ hinv hfold
        injection hfold with hfold
        rw [List.append_nil]
        exact hfold ▸ hinv
    | cons a rest ih =>
        intro done m₀ hinv hfold
        rw [List.foldlM_cons] at hfold
        cases hassign : m₀.assign a with
        | error fault =>
            rw [hassign] at hfold
            exact absurd hfold (by simp [bind, Except.bind])
        | ok m₁ =>
            rw [hassign] at hfold
            have hnext := ih (done ++ [a]) m₁ (step hinv hassign) hfold
            rwa [List.append_assoc] at hnext
  exact hrun e.assignments [] .identity init h

/-! ## What it computes -/

variable (conversion : Conversion Button Axis) (raw : PadState Button Axis)

@[simp] theorem eval_push (m : Mapper) (statement : Statement) :
    (m.push statement).eval conversion raw
      = statement.exec conversion raw (m.eval conversion raw) := by
  simp [Mapper.eval, Mapper.push]

@[simp] theorem eval_coverButton (m : Mapper) (index : Nat) :
    (m.coverButton index).eval conversion raw = m.eval conversion raw := rfl

@[simp] theorem eval_coverAxis (m : Mapper) (index : Nat) :
    (m.coverAxis index).eval conversion raw = m.eval conversion raw := rfl

theorem setButton_self {index : Nat} {value : Button} {s : PadState Button Axis}
    (h : s.buttons index = value) : s.setButton index value = s := by
  have hbuttons : (s.setButton index value).buttons = s.buttons := by
    funext i
    by_cases hi : i = index <;> simp [PadState.setButton, hi, h]
  cases s
  simpa [PadState.setButton] using hbuttons

theorem setAxis_self {index : Nat} {value : Axis} {s : PadState Button Axis}
    (h : s.axes index = value) : s.setAxis index value = s := by
  have haxes : (s.setAxis index value).axes = s.axes := by
    funext i
    by_cases hi : i = index <;> simp [PadState.setAxis, hi, h]
  cases s
  simpa [PadState.setAxis] using haxes

/-- The state that a button of the standard layout should have. -/
def wantedButton : Option Control → Button
  | none => conversion.null
  | some (.button n) => raw.buttons n
  | some (.axis n direction) => conversion.ofAxis direction (raw.axes n)

/-- The state that an axis of the standard layout should have: only another axis can stand for it,
in whichever direction it was pushed. -/
def wantedAxis (index : Nat) : Option Control → Axis
  | some (.axis n _) => raw.axes n
  | some (.button _) | none => raw.axes index

/-- A button that was not written yet is given its wanted state, and nothing else is changed. -/
theorem eval_assignButton {m : Mapper} {slot : Slot .button} (control : Option Control)
    (hraw : (m.eval conversion raw).buttons slot.index = raw.buttons slot.index) :
    (m.assignButton slot control).eval conversion raw
      = (m.eval conversion raw).setButton slot.index (wantedButton conversion raw control) := by
  cases control with
  | none => rw [Mapper.assignButton, eval_push]; rfl
  | some control =>
      cases control with
      | axis n direction => rw [Mapper.assignButton, eval_coverButton, eval_push]; rfl
      | button n =>
          rw [Mapper.assignButton, eval_coverButton]
          by_cases hn : n = slot.index
          · -- nothing is written, since the copy holds the wanted state already
            rw [if_pos hn, hn]
            exact (setButton_self hraw).symm
          · rw [if_neg hn, eval_push]
            rfl

/-- An axis that was not written yet is given its wanted state, and nothing else is changed. -/
theorem eval_assignAxis {m : Mapper} {slot : Slot .axis} (control : Option Control)
    (hraw : (m.eval conversion raw).axes slot.index = raw.axes slot.index) :
    (m.assignAxis slot control).eval conversion raw
      = (m.eval conversion raw).setAxis slot.index (wantedAxis raw slot.index control) := by
  cases control with
  | none => exact (setAxis_self hraw).symm
  | some control =>
      cases control with
      | button n => exact (setAxis_self hraw).symm
      | axis n direction =>
          rw [Mapper.assignAxis, eval_coverAxis]
          by_cases hn : n = slot.index
          · rw [if_pos hn, hn]
            exact (setAxis_self hraw).symm
          · rw [if_neg hn, eval_push]
            rfl

/-! ## Places -/

/-- The place of the standard layout that a step fills. -/
def placeOf (a : Assignment) : Target × Nat := (a.step.target, a.step.index)

/-- No place is named twice. -/
def Distinct (assignments : List Assignment) : Prop := (assignments.map placeOf).Nodup

/-- The place of an assignment holds what it should. -/
def Placed (mapped : PadState Button Axis) (a : Assignment) : Prop :=
  match a.step.target with
  | .button => mapped.buttons a.step.index = wantedButton conversion raw a.control
  | .axis => mapped.axes a.step.index = wantedAxis raw a.step.index a.control

/-- What is asked of the state in the standard layout for a list of assignments. -/
structure Implements (assignments : List Assignment) (mapped : PadState Button Axis) : Prop where
  /-- Every place that is named holds what it should. -/
  placed : ∀ a ∈ assignments, Placed conversion raw mapped a
  /-- Every other button is as it was. -/
  buttons : ∀ i, (.button, i) ∉ assignments.map placeOf → mapped.buttons i = raw.buttons i
  /-- Every other axis is as it was. -/
  axes : ∀ i, (.axis, i) ∉ assignments.map placeOf → mapped.axes i = raw.axes i

theorem implements_nil : Implements conversion raw [] raw where
  placed := fun _ ha => absurd ha (by simp)
  buttons := fun _ _ => rfl
  axes := fun _ _ => rfl

section

variable {conversion raw} {done : List Assignment} {mapped mapped' : PadState Button Axis}
  {a : Assignment}

/-- Giving a new place what it should hold, and no other place anything, keeps what was asked for
before. -/
theorem implements_append (h : Implements conversion raw done mapped)
    (hnew : placeOf a ∉ done.map placeOf) (hplaced : Placed conversion raw mapped' a)
    (hbuttons : ∀ i, (.button, i) ≠ placeOf a → mapped'.buttons i = mapped.buttons i)
    (haxes : ∀ i, (.axis, i) ≠ placeOf a → mapped'.axes i = mapped.axes i) :
    Implements conversion raw (done ++ [a]) mapped' where
  placed := by
    intro b hb
    rcases List.mem_append.mp hb with hb | hb
    · have hother : placeOf b ≠ placeOf a := fun heq => hnew (heq ▸ List.mem_map_of_mem hb)
      have hold := h.placed b hb
      rw [Placed] at hold ⊢
      cases htarget : b.step.target with
      | button =>
          rw [htarget] at hold
          exact (hbuttons _ (by rwa [← htarget])).trans hold
      | axis =>
          rw [htarget] at hold
          exact (haxes _ (by rwa [← htarget])).trans hold
    · exact List.mem_singleton.mp hb ▸ hplaced
  buttons := by
    intro i hi
    rw [List.map_append, List.mem_append, not_or] at hi
    exact (hbuttons i (by simpa using hi.2)).trans (h.buttons i hi.1)
  axes := by
    intro i hi
    rw [List.map_append, List.mem_append, not_or] at hi
    exact (haxes i (by simpa using hi.2)).trans (h.axes i hi.1)

end

/-- One more step at a place of its own is added correctly. -/
theorem implements_assign {done : List Assignment} {m m' : Mapper} {a : Assignment}
    (h : Implements conversion raw done (m.eval conversion raw))
    (hnew : placeOf a ∉ done.map placeOf) (hassign : m.assign a = .ok m') :
    Implements conversion raw (done ++ [a]) (m'.eval conversion raw) := by
  rcases assign_cases hassign with ⟨slot, htarget, hslot, rfl⟩ | ⟨slot, htarget, hslot, rfl⟩
  · have hraw := h.buttons slot.index (by rwa [hslot, ← htarget])
    rw [eval_assignButton conversion raw a.control hraw, hslot]
    refine implements_append h hnew (by simp [Placed, htarget, PadState.setButton]) ?_
      fun _ _ => rfl
    intro i hi
    have hne : i ≠ a.step.index := fun heq => hi (by simp [placeOf, htarget, heq])
    simp [PadState.setButton, hne]
  · have hraw := h.axes slot.index (by rwa [hslot, ← htarget])
    rw [eval_assignAxis conversion raw a.control hraw, hslot]
    refine implements_append h hnew (by simp [Placed, htarget, PadState.setAxis])
      (fun _ _ => rfl) ?_
    intro i hi
    have hne : i ≠ a.step.index := fun heq => hi (by simp [placeOf, htarget, heq])
    simp [PadState.setAxis, hne]

/-- **A mapper function does what its export says**, if no place is named twice. -/
theorem implements_ofExport {e : Export} {m : Mapper} (hdistinct : Distinct e.assignments)
    (h : Mapper.ofExport e = .ok m) :
    Implements conversion raw e.assignments (m.eval conversion raw) := by
  refine ofExport_induction
    (P := fun done m => Distinct done → Implements conversion raw done (m.eval conversion raw))
    ?_ ?_ h hdistinct
  · intro _
    exact implements_nil conversion raw
  · intro done m m' a ih hassign hd
    rw [Distinct, List.map_append, List.nodup_append] at hd
    obtain ⟨hdone, _, hapart⟩ := hd
    have hnew : placeOf a ∉ done.map placeOf := fun hmem =>
      hapart _ hmem (placeOf a) (by simp) rfl
    exact implements_assign conversion raw (ih hdone) hnew hassign

end PadMapping.Proofs
