import Mathlib.Data.List.Induction
import Mathlib.Data.List.Nodup
import PadMapping.Proofs.Snippet.Program

/-!
# Assignments that are left out

A mapper function has no line for a place that should hold what the raw state has there: the copy
that it starts from has it already. That is so unless an earlier line wrote the place, which happens
only if the export names the place more than once.

This module compares a mapper function with the one that leaves nothing out. Of all lines for a
place only the last matters, so the two differ at a place exactly if the last line for it is left
out and another one is not.
-/

namespace PadMapping.Proofs

open Snippet

/-! ## Nothing left out -/

/-- Where the state of a button comes from. -/
def sourceOf : Option Control → ButtonSource
  | none => .nothing
  | some (.button raw) => .button raw
  | some (.axis raw direction) => .axis raw direction

/-- The assignment of an axis, if there is an axis that stands for it. -/
def axisStatement? (slot : Slot .axis) : Option Control → Option Statement
  | some (.axis raw _) => some (.setAxis slot raw)
  | some (.button _) | none => none

/-- The assignment for the result of a step. -/
def statementOf? (a : Assignment) : Option Statement :=
  match a.step.target with
  | .button =>
    (Slot.ofIndex? .button a.step.index).map fun slot => .setButton slot (sourceOf a.control)
  | .axis => (Slot.ofIndex? .axis a.step.index).bind (axisStatement? · a.control)

/-- What the assignment for the result of a step can be. -/
theorem statementOf?_cases {a : Assignment} {statement : Statement}
    (h : statementOf? a = some statement) :
    (∃ slot : Slot .button, a.step.target = .button ∧ slot.index = a.step.index
        ∧ statement = .setButton slot (sourceOf a.control))
      ∨ ∃ (slot : Slot .axis) (raw : Nat) (direction : Direction), a.step.target = .axis
        ∧ slot.index = a.step.index ∧ a.control = some (.axis raw direction)
        ∧ statement = .setAxis slot raw := by
  rw [statementOf?] at h
  cases htarget : a.step.target with
  | button =>
      rw [htarget] at h
      obtain ⟨slot, hslot, rfl⟩ := Option.map_eq_some_iff.mp h
      exact .inl ⟨slot, rfl, index_of_ofIndex? hslot, rfl⟩
  | axis =>
      rw [htarget] at h
      obtain ⟨slot, hslot, haxis⟩ := Option.bind_eq_some_iff.mp h
      cases hcontrol : a.control with
      | none => rw [hcontrol] at haxis; exact absurd haxis (by simp [axisStatement?])
      | some control =>
          rw [hcontrol] at haxis
          cases control with
          | button raw => exact absurd haxis (by simp [axisStatement?])
          | axis raw direction =>
              injection haxis with haxis
              exact .inr ⟨slot, raw, direction, rfl, index_of_ofIndex? hslot, rfl, haxis.symm⟩

/-- The assignments for an export, none of them left out. -/
def allStatements (e : Export) : List Statement := e.assignments.filterMap statementOf?

/-- Whether an assignment writes what the raw state has at its place. -/
def isIdentity : Statement → Bool
  | .setButton slot source => source = .button slot.index
  | .setAxis slot raw => raw = slot.index

theorem statements_assignButton (m : Mapper) (slot : Slot .button) (control : Option Control) :
    (m.assignButton slot control).statements
      = m.statements ++ [.setButton slot (sourceOf control)].filter (!isIdentity ·) := by
  cases control with
  | none => rfl
  | some control =>
      cases control with
      | axis raw direction => rfl
      | button raw =>
          rw [Mapper.assignButton]
          by_cases hraw : raw = slot.index
          · simp [hraw, Mapper.coverButton, sourceOf, isIdentity]
          · simp [hraw, Mapper.coverButton, Mapper.push, sourceOf, isIdentity]

theorem statements_assignAxis (m : Mapper) (slot : Slot .axis) (control : Option Control) :
    (m.assignAxis slot control).statements
      = m.statements ++ (axisStatement? slot control).toList.filter (!isIdentity ·) := by
  cases control with
  | none => exact (List.append_nil _).symm
  | some control =>
      cases control with
      | button raw => exact (List.append_nil _).symm
      | axis raw direction =>
          rw [Mapper.assignAxis]
          by_cases hraw : raw = slot.index
          · simp [hraw, Mapper.coverAxis, axisStatement?, isIdentity]
          · simp [hraw, Mapper.coverAxis, Mapper.push, axisStatement?, isIdentity]

theorem ofIndex?_index {target : Target} {index : Nat} {slot : Slot target}
    (h : slot.index = index) : Slot.ofIndex? target index = some slot := by
  subst h
  exact dif_pos slot.index_lt

/-- Adding the result of a step adds its assignment, unless it is an identity. -/
theorem statements_assign {m m' : Mapper} {a : Assignment} (h : m.assign a = .ok m') :
    m'.statements = m.statements ++ (statementOf? a).toList.filter (!isIdentity ·) := by
  rcases assign_cases h with ⟨slot, htarget, hslot, rfl⟩ | ⟨slot, htarget, hslot, rfl⟩
  · rw [statements_assignButton, statementOf?, htarget]
    simp only [ofIndex?_index hslot, Option.map_some, Option.toList_some]
  · rw [statements_assignAxis, statementOf?, htarget]
    simp only [ofIndex?_index hslot, Option.bind_some]

/-- A mapper function has all assignments for its export but the identities. -/
theorem statements_ofExport {e : Export} {m : Mapper} (h : Mapper.ofExport e = .ok m) :
    m.statements = (allStatements e).filter (!isIdentity ·) := by
  refine ofExport_induction
    (P := fun done m => m.statements = (done.filterMap statementOf?).filter (!isIdentity ·))
    rfl ?_ h
  intro done m m' a hdone hassign
  rw [statements_assign hassign, hdone, List.filterMap_append, List.filter_append]
  cases hstatement : statementOf? a <;> simp [hstatement]

/-! ## The last assignment of a place -/

/-- The place that an assignment writes. -/
def placeWritten : Statement → Target × Nat
  | .setButton slot _ => (.button, slot.index)
  | .setAxis slot _ => (.axis, slot.index)

/-- The last assignment of a place. -/
def lastFor (place : Target × Nat) (statements : List Statement) : Option Statement :=
  (statements.filter (placeWritten · = place)).getLast?

section

variable {place : Target × Nat} {statements : List Statement} {statement : Statement}

theorem lastFor_concat_of_eq (h : placeWritten statement = place) :
    lastFor place (statements ++ [statement]) = some statement := by
  simp [lastFor, List.filter_append, h]

theorem lastFor_concat_of_ne (h : placeWritten statement ≠ place) :
    lastFor place (statements ++ [statement]) = lastFor place statements := by
  simp [lastFor, List.filter_append, h]

end

section

variable {Button Axis : Type}

/-- The two states are the same at a place. -/
def SameAt (place : Target × Nat) (s s' : PadState Button Axis) : Prop :=
  match place with
  | (.button, i) => s.buttons i = s'.buttons i
  | (.axis, i) => s.axes i = s'.axes i

section

variable {place : Target × Nat} {s s' s'' : PadState Button Axis}

theorem SameAt.refl (place : Target × Nat) (s : PadState Button Axis) : SameAt place s s := by
  obtain ⟨target, i⟩ := place
  cases target <;> rfl

theorem SameAt.symm (h : SameAt place s s') : SameAt place s' s := by
  obtain ⟨target, i⟩ := place
  cases target <;> exact Eq.symm h

theorem SameAt.trans (h : SameAt place s s') (h' : SameAt place s' s'') :
    SameAt place s s'' := by
  obtain ⟨target, i⟩ := place
  cases target <;> exact Eq.trans h h'

end

variable (conversion : Conversion Button Axis) (raw : PadState Button Axis)

/-- Carries out assignments on a copy of the raw state. -/
def runStatements (statements : List Statement) : PadState Button Axis :=
  statements.foldl (fun mapped statement => statement.exec conversion raw mapped) raw

section

variable {conversion raw} {place : Target × Nat} {statement : Statement}
  {mapped mapped' : PadState Button Axis}

/-- What an assignment puts at its place does not depend on what was there. -/
theorem sameAt_exec (h : placeWritten statement = place) :
    SameAt place (statement.exec conversion raw mapped)
      (statement.exec conversion raw mapped') := by
  subst h
  cases statement <;> simp [SameAt, placeWritten, Statement.exec, PadState.setButton,
    PadState.setAxis]

theorem sameAt_exec_of_ne (h : placeWritten statement ≠ place) :
    SameAt place (statement.exec conversion raw mapped) mapped := by
  obtain ⟨target, i⟩ := place
  cases statement with
  | setButton slot source =>
      cases target with
      | axis => rfl
      | button =>
          have hne : i ≠ slot.index := fun heq => h (by rw [heq]; rfl)
          exact if_neg hne
  | setAxis slot index =>
      cases target with
      | button => rfl
      | axis =>
          have hne : i ≠ slot.index := fun heq => h (by rw [heq]; rfl)
          exact if_neg hne

theorem sameAt_exec_identity (h : isIdentity statement = true) :
    SameAt place (statement.exec conversion raw raw) raw := by
  by_cases hplace : placeWritten statement = place
  · subst hplace
    cases statement with
    | setButton slot source =>
        have hsource : source = .button slot.index := by simpa [isIdentity] using h
        subst hsource
        exact if_pos rfl
    | setAxis slot index =>
        have hindex : index = slot.index := by simpa [isIdentity] using h
        subst hindex
        exact if_pos rfl
  · exact sameAt_exec_of_ne hplace

end

/-- **The last assignment of a place decides.** A place that is not written stays as it is. -/
theorem sameAt_runStatements (place : Target × Nat) (statements : List Statement) :
    SameAt place (runStatements conversion raw statements)
      (match lastFor place statements with
        | some statement => statement.exec conversion raw raw
        | none => raw) := by
  induction statements using List.reverseRecOn with
  | nil => exact .refl place raw
  | append_singleton statements statement ih =>
      have hrun : runStatements conversion raw (statements ++ [statement])
          = statement.exec conversion raw (runStatements conversion raw statements) := by
        rw [runStatements, List.foldl_append]
        rfl
      rw [hrun]
      by_cases hplace : placeWritten statement = place
      · rw [lastFor_concat_of_eq hplace]
        exact sameAt_exec hplace
      · rw [lastFor_concat_of_ne hplace]
        exact (sameAt_exec_of_ne hplace).trans ih

end

/-! ## Where something is missed -/

/-- The last assignment of the place is an identity, but not all of them are. -/
def Overtaken (statements : List Statement) (place : Target × Nat) : Prop :=
  (∃ last, lastFor place statements = some last ∧ isIdentity last = true)
    ∧ ∃ other ∈ statements, placeWritten other = place ∧ isIdentity other = false

section

variable {place : Target × Nat} {statements : List Statement}

theorem lastFor_filter (place : Target × Nat) (statements : List Statement) :
    lastFor place (statements.filter (!isIdentity ·))
      = ((statements.filter (placeWritten · = place)).filter (!isIdentity ·)).getLast? := by
  rw [lastFor, List.filter_comm]

theorem mem_of_lastFor {last : Statement} (h : lastFor place statements = some last) :
    last ∈ statements ∧ placeWritten last = place := by
  simpa using List.mem_filter.mp (List.mem_of_getLast? h)

/-- Leaving out identities does not matter where the last assignment is none. -/
theorem lastFor_filter_of_last {last : Statement} (h : lastFor place statements = some last)
    (hlast : isIdentity last = false) :
    lastFor place (statements.filter (!isIdentity ·)) = some last := by
  obtain ⟨front, hfront⟩ := List.getLast?_eq_some_iff.mp h
  rw [lastFor_filter, hfront, List.filter_append]
  simp [hlast]

theorem lastFor_filter_eq_none
    (h : ∀ other ∈ statements, placeWritten other = place → isIdentity other = true) :
    lastFor place (statements.filter (!isIdentity ·)) = none := by
  rw [lastFor_filter, List.getLast?_eq_none_iff, List.filter_eq_nil_iff]
  intro other hother
  obtain ⟨hmem, hplace⟩ := List.mem_filter.mp hother
  simp [h other hmem (by simpa using hplace)]

/-- Where nothing is missed, nothing changes. -/
theorem sameAt_of_not_overtaken {Button Axis : Type} (conversion : Conversion Button Axis)
    (raw : PadState Button Axis) (h : ¬Overtaken statements place) :
    SameAt place (runStatements conversion raw (statements.filter (!isIdentity ·)))
      (runStatements conversion raw statements) := by
  have hkept := sameAt_runStatements conversion raw place (statements.filter (!isIdentity ·))
  have hall := sameAt_runStatements conversion raw place statements
  cases hlast : lastFor place statements with
  | none =>
      rw [hlast] at hall
      have hnone : ∀ other ∈ statements, placeWritten other = place → isIdentity other = true := by
        intro other hother hplace
        have hempty := List.filter_eq_nil_iff.mp (List.getLast?_eq_none_iff.mp hlast) other hother
        exact absurd (decide_eq_true hplace) hempty
      rw [lastFor_filter_eq_none hnone] at hkept
      exact hkept.trans hall.symm
  | some last =>
      rw [hlast] at hall
      cases hidentity : isIdentity last with
      | false =>
          rw [lastFor_filter_of_last hlast hidentity] at hkept
          exact hkept.trans hall.symm
      | true =>
          -- the identities before it are left out as well, so the place is never written
          have hidentities : ∀ other ∈ statements, placeWritten other = place →
              isIdentity other = true := by
            intro other hother hplace
            by_contra hother'
            exact h ⟨⟨last, hlast, hidentity⟩, other, hother, hplace, by simpa using hother'⟩
          rw [lastFor_filter_eq_none hidentities] at hkept
          exact hkept.trans ((sameAt_exec_identity hidentity).symm.trans hall.symm)

end

/-! ## Where something is missed, it can be seen -/

/-- States of buttons that tell where they come from. -/
def freeConversion : Conversion ButtonSource Nat :=
  ⟨.nothing, fun direction raw => .axis raw direction⟩

/-- A raw state in which everything tells its own place. -/
def freeState : PadState ButtonSource Nat := ⟨.button, id⟩

theorem eval_free (source : ButtonSource) : source.eval freeConversion freeState = source := by
  cases source <;> rfl

/-- On the free state, only an identity writes what was there. -/
theorem isIdentity_of_sameAt {statement : Statement}
    (h : SameAt (placeWritten statement)
      (statement.exec freeConversion freeState freeState) freeState) :
    isIdentity statement = true := by
  cases statement with
  | setButton slot source =>
      have hwritten : (if slot.index = slot.index then source.eval freeConversion freeState
          else _) = ButtonSource.button slot.index := h
      rw [if_pos rfl, eval_free] at hwritten
      exact decide_eq_true hwritten
  | setAxis slot raw =>
      have hwritten : (if slot.index = slot.index then raw else _) = slot.index := h
      rw [if_pos rfl] at hwritten
      exact decide_eq_true hwritten

section

variable {place : Target × Nat} {statements : List Statement}

theorem not_sameAt_of_overtaken (h : Overtaken statements place) :
    ¬SameAt place
      (runStatements freeConversion freeState (statements.filter (!isIdentity ·)))
      (runStatements freeConversion freeState statements) := by
  obtain ⟨⟨last, hlast, hidentity⟩, other, hother, hplace, hother'⟩ := h
  intro hsame
  have hall := sameAt_runStatements freeConversion freeState place statements
  rw [hlast] at hall
  have hkept := sameAt_runStatements freeConversion freeState place
    (statements.filter (!isIdentity ·))
  cases hlast' : lastFor place (statements.filter (!isIdentity ·)) with
  | none =>
      rw [lastFor_filter, List.getLast?_eq_none_iff, List.filter_eq_nil_iff] at hlast'
      exact hlast' other (List.mem_filter.mpr ⟨hother, decide_eq_true hplace⟩) (by simp [hother'])
  | some kept =>
      obtain ⟨hmem, hkeptPlace⟩ := mem_of_lastFor hlast'
      rw [hlast'] at hkept
      have hraw : SameAt place (kept.exec freeConversion freeState freeState) freeState :=
        hkept.symm.trans (hsame.trans (hall.trans (sameAt_exec_identity hidentity)))
      have hkeptIdentity := isIdentity_of_sameAt (hkeptPlace ▸ hraw)
      have hnot := (List.mem_filter.mp hmem).2
      rw [hkeptIdentity] at hnot
      exact absurd hnot (by simp)

end

/-! ## Mapper functions for exports -/

theorem placeWritten_of_statementOf? {a : Assignment} {statement : Statement}
    (h : statementOf? a = some statement) : placeWritten statement = placeOf a := by
  rcases statementOf?_cases h with
    ⟨slot, htarget, hslot, rfl⟩ | ⟨slot, _, _, htarget, hslot, _, rfl⟩
  · rw [placeOf, htarget, ← hslot]
    rfl
  · rw [placeOf, htarget, ← hslot]
    rfl

/-- If no place is named twice, there is only one assignment for each. -/
theorem not_overtaken_of_distinct {e : Export} (h : Distinct e.assignments)
    (place : Target × Nat) : ¬Overtaken (allStatements e) place := by
  rintro ⟨⟨last, hlast, hidentity⟩, other, hother, hplace, hother'⟩
  obtain ⟨hmem, hlastPlace⟩ := mem_of_lastFor hlast
  obtain ⟨a, ha, hstatement⟩ := List.mem_filterMap.mp hmem
  obtain ⟨b, hb, hstatement'⟩ := List.mem_filterMap.mp hother
  have hsame : placeOf a = placeOf b := by
    rw [← placeWritten_of_statementOf? hstatement, ← placeWritten_of_statementOf? hstatement',
      hlastPlace, hplace]
  rw [List.inj_on_of_nodup_map h ha hb hsame, hstatement'] at hstatement
  injection hstatement with hstatement
  rw [hstatement, hidentity] at hother'
  exact absurd hother' (by simp)

/--
**What leaving out identities does to a mapper function.**

The text of a mapper function computes the same for a place as all assignments of its export would,
on every state of a gamepad, exactly if it is not so that the last assignment of the place is an
identity and another one is none. That never is so if no place is named twice.
-/
theorem run_eq_complete_iff {e : Export} {name text : String}
    (h : mapperFunction e name = .ok text) :
    ∃ program, commandsOf? name text = some program
      ∧ (∀ place, (∀ {Button Axis : Type} (conversion : Conversion Button Axis)
            (input mapped : Pad Button Axis),
          SameAt place (runProgram conversion program input mapped).toPadState
            (runStatements conversion input.toPadState (allStatements e)))
        ↔ ¬Overtaken (allStatements e) place)
      ∧ (Distinct e.assignments → ∀ place, ¬Overtaken (allStatements e) place) := by
  rw [mapperFunction] at h
  split at h
  · exact absurd h (by simp)
  rename_i m hm
  injection h with h
  subst h
  have hrun : ∀ {Button Axis : Type} (conversion : Conversion Button Axis)
      (input mapped : Pad Button Axis),
      (runProgram conversion (commandsOf m) input mapped).toPadState
        = runStatements conversion input.toPadState
          ((allStatements e).filter (!isIdentity ·)) := by
    intro Button Axis conversion input mapped
    rw [run_commandsOf, ← statements_ofExport hm]
    rfl
  refine ⟨commandsOf m, commandsOf?_print hm name, fun place => ⟨?_, ?_⟩, not_overtaken_of_distinct⟩
  · intro hsame hovertaken
    have hfree := hsame freeConversion ⟨freeState, 0, 0⟩ ⟨freeState, 0, 0⟩
    rw [hrun] at hfree
    exact not_sameAt_of_overtaken hovertaken hfree
  · intro hnot Button Axis conversion input mapped
    rw [hrun]
    exact sameAt_of_not_overtaken conversion input.toPadState hnot

/-- An export that names its first button twice. -/
def namedTwice (first second : Nat) : Export :=
  ⟨"Pad", [⟨⟨"Button A", .button, 0⟩, some (.button first)⟩,
    ⟨⟨"Button A", .button, 0⟩, some (.button second)⟩]⟩

/-- An identity that comes first is left out rightly. -/
theorem run_of_identity_first : ∃ text program,
    mapperFunction (namedTwice 0 1) "Map" = .ok text ∧ commandsOf? "Map" text = some program
      ∧ ∀ {Button Axis : Type} (conversion : Conversion Button Axis)
          (input mapped : Pad Button Axis),
        (runProgram conversion program input mapped).buttons 0
          = (runStatements conversion input.toPadState
              (allStatements (namedTwice 0 1))).buttons 0 := by
  obtain ⟨text, htext⟩ : ∃ text, mapperFunction (namedTwice 0 1) "Map" = .ok text := ⟨_, rfl⟩
  obtain ⟨program, hprogram, hsame, _⟩ := run_eq_complete_iff htext
  have hnot : ¬Overtaken (allStatements (namedTwice 0 1)) (.button, 0) := by
    rintro ⟨⟨last, hlast, hidentity⟩, _⟩
    injection hlast with hlast
    subst hlast
    exact absurd hidentity (by decide)
  refine ⟨text, program, htext, hprogram, ?_⟩
  intro Button Axis conversion input mapped
  exact (hsame (.button, 0)).mpr hnot conversion input mapped

/-- An identity that comes last is missed: the first raw button is pressed, and is the last to be
named for the first button, but the mapper function reads the second one. -/
theorem run_of_identity_last :
    let conversion : Conversion Bool Int := ⟨false, fun _ _ => false⟩
    let input : Pad Bool Int := ⟨⟨fun i => i = 0, fun _ => 0⟩, 17, 4⟩
    ∃ text program, mapperFunction (namedTwice 1 0) "Map" = .ok text
      ∧ commandsOf? "Map" text = some program
      ∧ (runProgram conversion program input input).buttons 0 = false
      ∧ (runStatements conversion input.toPadState (allStatements (namedTwice 1 0))).buttons 0
        = true := by
  intro conversion input
  have hmapper : Mapper.ofExport (namedTwice 1 0)
      = .ok ⟨[.setButton ⟨0, by decide⟩ (.button 1)], 1, 0⟩ := rfl
  refine ⟨_, _, ?_, commandsOf?_print hmapper "Map", rfl, rfl⟩
  rw [mapperFunction, hmapper]

end PadMapping.Proofs
