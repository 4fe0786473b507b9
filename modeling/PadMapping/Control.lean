import PadMapping.Text.Number

/-!
# Controls

A control is one thing on a gamepad that the user can press or push: a button, or an axis in
one of its two directions. Controls are numbered as the device numbers them. An axis with its
direction has a short label, such as `0+`, which is also how exports name it.
-/

namespace PadMapping

/-- The two ways in which an axis can be pushed. -/
inductive Direction where
  | positive
  | negative
deriving DecidableEq, Repr

namespace Direction

/-- The sign at the end of an axis label. -/
def sign : Direction → Char
  | .positive => '+'
  | .negative => '-'

/-- The direction that a sign stands for. -/
def ofSign? : Char → Option Direction
  | '+' => some .positive
  | '-' => some .negative
  | _ => none

end Direction

/-- A physical control, by its place in the layout of the device. -/
inductive Control where
  | button (index : Nat)
  | axis (index : Nat) (direction : Direction)
deriving DecidableEq, Repr

/-- A text that was read as an axis label and is none. -/
structure LabelError where
  label : String
deriving DecidableEq, Repr

/-- The wording shown for a bad label. -/
def LabelError.message (e : LabelError) : String :=
  "invalid axis label '" ++ e.label ++ "', expected e.g. \"0+\""

namespace Control

/-- The label of an axis with its direction, such as `0+`. -/
def axisLabel (index : Nat) (direction : Direction) : String :=
  toString index ++ String.singleton direction.sign

/-- The label of a control; buttons have none. -/
def label? : Control → Option String
  | .button _ => none
  | .axis index direction => some (axisLabel index direction)

/-- How a control is shown to the user. -/
def describe : Control → String
  | .button index => "Button " ++ toString index
  | .axis index direction => "Axis " ++ axisLabel index direction

/-- Reads an axis label: an index followed by the sign of the direction. -/
def ofLabel (label : String) : Except LabelError Control :=
  let chars := label.toList
  match chars.getLast?.bind Direction.ofSign?, Text.index? chars.dropLast with
  | some direction, some index => .ok (.axis index direction)
  | _, _ => .error ⟨label⟩

end Control

end PadMapping
