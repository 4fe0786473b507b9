import PadMapping.Session

/-!
# What a session keeps and what it changes

A session is read in three ways: which result it holds for a step, which steps it walks
through, and whether it is past the last of them. This module says what each operation does to
these readings, so that nothing above has to look into the list of assignments again.

`record` and `skip` refuse a finished session. What they come to otherwise is given a name here,
because most arguments about a session begin where the refusal is already excluded.
-/

namespace PadMapping.Proofs

/-- What is recorded for step `i`. -/
def resultAt (s : Session) (i : Nat) : Option Control := s.assignments[i]?.bind Assignment.control

/-- The steps that a session walks through. -/
def stepsOf (s : Session) : List Step := s.assignments.map Assignment.step

/-- The session after `control` was recorded for its current step. -/
def recorded (s : Session) (control : Control) : Session where
  assignments := s.assignments.modify s.current fun a => { a with control := some control }
  current := s.current + 1
  stale := true
  waiting := true

/-- The session after its current step was passed without a result. -/
def skipped (s : Session) : Session := { s with current := s.current + 1, stale := true }

/-! ## Refusals -/

theorem isDone_eq_false_iff {s : Session} : s.isDone = false ↔ s.current < s.size := by
  simp [Session.isDone]

theorem record_of_open {s : Session} (h : s.isDone = false) (control : Control) :
    s.record control = .ok (recorded s control) := by
  rw [Session.record, if_neg (by simp [h])]
  rfl

theorem skip_of_open {s : Session} (h : s.isDone = false) : s.skip = .ok (skipped s) := by
  rw [Session.skip, if_neg (by simp [h])]
  rfl

/-! ## Results -/

theorem resultAt_start (steps : List Step) (i : Nat) : resultAt (.start steps) i = none := by
  simp only [resultAt, Session.start, List.getElem?_map]
  cases steps[i]? <;> rfl

theorem resultAt_reset (s : Session) (i : Nat) : resultAt s.reset i = none := by
  simp only [resultAt, Session.reset, List.getElem?_map]
  cases s.assignments[i]? <;> rfl

/-- Recording touches the result of the current step only. -/
theorem resultAt_recorded {s : Session} (h : s.isDone = false) (control : Control) (i : Nat) :
    resultAt (recorded s control) i = if i = s.current then some control else resultAt s i := by
  have hlt : s.current < s.assignments.length := isDone_eq_false_iff.mp h
  by_cases hi : i = s.current
  · rw [if_pos hi, hi]
    simp [resultAt, recorded, List.getElem?_eq_getElem hlt]
  · rw [if_neg hi]
    simp [resultAt, recorded, Ne.symm hi]

/-! ## Steps -/

theorem stepsOf_start (steps : List Step) : stepsOf (.start steps) = steps := by
  simp [stepsOf, Session.start, Function.comp_def]

theorem stepsOf_reset (s : Session) : stepsOf s.reset = stepsOf s := by
  simp [stepsOf, Session.reset, Function.comp_def]

theorem stepsOf_recorded (s : Session) (control : Control) :
    stepsOf (recorded s control) = stepsOf s := by
  apply List.ext_getElem?
  intro i
  simp only [stepsOf, recorded, List.getElem?_map, List.getElem?_modify]
  by_cases hi : s.current = i
  · cases h : s.assignments[i]? <;> simp [hi]
  · simp [hi]

theorem size_eq (s : Session) : s.size = (stepsOf s).length := by
  simp [Session.size, stepsOf]

/-- A session that is not finished asks for its current step by name. -/
theorem currentName_of_open {s : Session} (h : s.isDone = false) :
    ∃ step, (stepsOf s)[s.current]? = some step ∧ s.currentName = .ok step.name := by
  have hlt : s.current < s.assignments.length := isDone_eq_false_iff.mp h
  refine ⟨(s.assignments[s.current]).step, ?_, ?_⟩
  · simp [stepsOf, List.getElem?_eq_getElem hlt]
  · simp [Session.currentName, List.getElem?_eq_getElem hlt]

end PadMapping.Proofs
