import PadMapping.Snippet.Mapper

/-!
# What a mapper function computes

A mapper function is a program on the state of a gamepad: it copies the raw state and then
carries out its assignments in their order. Each assignment writes one place and reads only the
raw state, never what was written before.

Nothing is assumed of the states of buttons and axes but that an axis can be taken for a button,
in each of its directions, and that there is a button that is never pressed.
-/

namespace PadMapping.Snippet

/-- How generated code makes the state of a button. -/
structure Conversion (Button Axis : Type) where
  /-- A button that is never pressed. -/
  null : Button
  /-- An axis in one direction as a button. -/
  ofAxis : Direction → Axis → Button

/-- The state of a gamepad as generated code finds it: buttons and axes by index. -/
structure PadState (Button Axis : Type) where
  buttons : Nat → Button
  axes : Nat → Axis

namespace PadState

variable {Button Axis : Type}

/-- Writes a button. -/
def setButton (index : Nat) (value : Button) (s : PadState Button Axis) : PadState Button Axis :=
  { s with buttons := fun i => if i = index then value else s.buttons i }

/-- Writes an axis. -/
def setAxis (index : Nat) (value : Axis) (s : PadState Button Axis) : PadState Button Axis :=
  { s with axes := fun i => if i = index then value else s.axes i }

end PadState

variable {Button Axis : Type}

/-- The state of a button, read from the raw state. -/
def ButtonSource.eval (conversion : Conversion Button Axis) (raw : PadState Button Axis) :
    ButtonSource → Button
  | .button index => raw.buttons index
  | .axis index direction => conversion.ofAxis direction (raw.axes index)
  | .nothing => conversion.null

/-- Carries out an assignment. -/
def Statement.exec (conversion : Conversion Button Axis) (raw mapped : PadState Button Axis) :
    Statement → PadState Button Axis
  | .setButton slot source => mapped.setButton slot.index (source.eval conversion raw)
  | .setAxis slot index => mapped.setAxis slot.index (raw.axes index)

/-- The state in the standard layout. -/
def Mapper.eval (conversion : Conversion Button Axis) (m : Mapper) (raw : PadState Button Axis) :
    PadState Button Axis :=
  m.statements.foldl (fun mapped statement => statement.exec conversion raw mapped) raw

end PadMapping.Snippet
