import PadMapping.Step

/-!
# Slots of the standard layout in generated code

Generated code names the places of the standard layout by constants. Each table ends with the
constant for the number of places, which is no place itself; a constant is worth its position
in its table.
-/

namespace PadMapping.Snippet

/-- The constants for buttons. -/
def buttonConstants : List String :=
  ["BUTTON_INDEX_PRIMARY", "BUTTON_INDEX_SECONDARY", "BUTTON_INDEX_TERTIARY",
    "BUTTON_INDEX_QUATERNARY", "BUTTON_INDEX_LEFT_SHOULDER", "BUTTON_INDEX_RIGHT_SHOULDER",
    "BUTTON_INDEX_LEFT_TRIGGER", "BUTTON_INDEX_RIGHT_TRIGGER", "BUTTON_INDEX_BACK_SELECT",
    "BUTTON_INDEX_START", "BUTTON_INDEX_LEFT_THUMBSTICK", "BUTTON_INDEX_RIGHT_THUMBSTICK",
    "BUTTON_INDEX_DPAD_UP", "BUTTON_INDEX_DPAD_DOWN", "BUTTON_INDEX_DPAD_LEFT",
    "BUTTON_INDEX_DPAD_RIGHT", "BUTTON_INDEX_META", "BUTTON_INDEX_COUNT"]

/-- The constants for axes. -/
def axisConstants : List String :=
  ["AXIS_INDEX_LEFT_STICK_X", "AXIS_INDEX_LEFT_STICK_Y", "AXIS_INDEX_RIGHT_STICK_X",
    "AXIS_INDEX_RIGHT_STICK_Y", "AXIS_INDEX_COUNT"]

/-- The table of a kind of places. -/
def constants : Target → List String
  | .button => buttonConstants
  | .axis => axisConstants

/-- How many places of a kind there are. -/
def slotCount (target : Target) : Nat := (constants target).length - 1

/-- A place of the standard layout. -/
structure Slot (target : Target) where
  index : Nat
  index_lt : index < slotCount target

/-- The place with the given index. -/
def Slot.ofIndex? (target : Target) (index : Nat) : Option (Slot target) :=
  if h : index < slotCount target then some ⟨index, h⟩ else none

/-- The constant with the given value. -/
def constant (target : Target) (value : Nat) : String :=
  (constants target).getD value ""

/-- The constant of a place. -/
def Slot.constant {target : Target} (slot : Slot target) : String :=
  Snippet.constant target slot.index

end PadMapping.Snippet
