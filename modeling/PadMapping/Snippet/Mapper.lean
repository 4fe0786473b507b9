import PadMapping.Export.Basic
import PadMapping.Snippet.Slot

/-!
# The mapper function

A mapper function brings the raw state of a gamepad into the standard layout. It starts from a
copy of the raw state and then sets places one after another, always from the raw state. Places
that would be set to what the copy holds already are left out.

Last it sets how many buttons and axes the standard layout has for this device: those up to the
last one that has a control.
-/

namespace PadMapping.Snippet

/-- A place of the standard layout for which there is no slot. -/
structure Fault where
  target : Target
  index : Nat
deriving DecidableEq, Repr

/-- The wording shown for a fault. -/
def Fault.message (f : Fault) : String :=
  f.target.name ++ " index " ++ toString f.index ++ " has no standard slot"

/-- Where the state of a button comes from. -/
inductive ButtonSource where
  | button (raw : Nat)
  | axis (raw : Nat) (direction : Direction)
  | nothing
deriving DecidableEq, Repr

/-- One assignment of a mapper function. -/
inductive Statement where
  | setButton (slot : Slot .button) (source : ButtonSource)
  | setAxis (slot : Slot .axis) (raw : Nat)

/-- A mapper function. -/
structure Mapper where
  statements : List Statement
  /-- One more than the last button with a control, or zero. -/
  buttonsLength : Nat
  /-- One more than the last axis with a control, or zero. -/
  axesLength : Nat

namespace Mapper

/-- A mapper function that leaves the raw state as it is. -/
def identity : Mapper := ⟨[], 0, 0⟩

/-- Appends an assignment. -/
def push (m : Mapper) (statement : Statement) : Mapper :=
  { m with statements := m.statements ++ [statement] }

/-- Makes the standard layout long enough for a button. -/
def coverButton (m : Mapper) (index : Nat) : Mapper :=
  { m with buttonsLength := max m.buttonsLength (index + 1) }

/-- Makes the standard layout long enough for an axis. -/
def coverAxis (m : Mapper) (index : Nat) : Mapper :=
  { m with axesLength := max m.axesLength (index + 1) }

/-- Sets a button of the standard layout. -/
def assignButton (m : Mapper) (slot : Slot .button) : Option Control → Mapper
  | none => m.push (.setButton slot .nothing)
  | some (.button raw) =>
    (if raw = slot.index then m else m.push (.setButton slot (.button raw))).coverButton slot.index
  | some (.axis raw direction) =>
    (m.push (.setButton slot (.axis raw direction))).coverButton slot.index

/-- Sets an axis of the standard layout, for which only another axis can stand. -/
def assignAxis (m : Mapper) (slot : Slot .axis) : Option Control → Mapper
  | some (.axis raw _) =>
    (if raw = slot.index then m else m.push (.setAxis slot raw)).coverAxis slot.index
  | _ => m

/-- Adds the result of one step. -/
def assign (m : Mapper) (a : Assignment) : Except Fault Mapper :=
  match a.step.target with
  | .button =>
    match Slot.ofIndex? .button a.step.index with
    | some slot => .ok (m.assignButton slot a.control)
    | none => .error ⟨.button, a.step.index⟩
  | .axis =>
    match Slot.ofIndex? .axis a.step.index with
    | some slot => .ok (m.assignAxis slot a.control)
    | none => .error ⟨.axis, a.step.index⟩

/-- The mapper function for an export. -/
def ofExport (e : Export) : Except Fault Mapper := e.assignments.foldlM assign identity

end Mapper

end PadMapping.Snippet
