import PadMapping.Control

/-!
# Steps

The user is asked for one control after another. A step says which place of the standard
layout its control fills, and by what name the user is asked for it.

| Index | Button | Index | Axis |
|-------|--------|-------|------|
| 0 to 3 | A, B, X, Y | 0, 1 | left stick |
| 4 to 7 | shoulders and triggers | 2, 3 | right stick |
| 8, 9 | select, start | | |
| 10, 11 | stick presses | | |
| 12 to 15 | directional pad | | |
| 16 | logo | | |
-/

namespace PadMapping

/-- The two kinds of places in the standard layout. -/
inductive Target where
  | button
  | axis
deriving DecidableEq, Repr

/-- How a kind of place is named in exports. -/
def Target.name : Target → String
  | .button => "button"
  | .axis => "axis"

/-- The kind of place with the given name. -/
def Target.ofName? : String → Option Target
  | "button" => some .button
  | "axis" => some .axis
  | _ => none

/-- One place of the standard layout that is to be filled. -/
structure Step where
  /-- What the user is asked to press. -/
  name : String
  target : Target
  /-- The place among those of its kind. -/
  index : Nat
deriving DecidableEq, Repr

/-- A step with the control that was recorded for it. -/
structure Assignment where
  step : Step
  control : Option Control
deriving DecidableEq, Repr

/-- The line that shows an assignment: `name:`, then the control if there is one. -/
def Assignment.describe (a : Assignment) : String :=
  a.step.name ++ ":" ++ match a.control with
    | none => ""
    | some control => " " ++ control.describe

/-- Names of the buttons of the standard layout, by index. -/
def buttonNames : List String :=
  ["A", "B", "X", "Y", "Left Shoulder", "Right Shoulder", "Left Trigger", "Right Trigger",
    "Select / Back", "Start / Forward", "Press Left Analog Stick", "Press Right Analog Stick",
    "DPad Up", "DPad Down", "DPad Left", "DPad Right", "Logo Button"]

/-- Names of the axes of the standard layout, by index. -/
def axisNames : List String :=
  ["Left Analog Stick Horizontal", "Left Analog Stick Vertical",
    "Right Analog Stick Horizontal", "Right Analog Stick Vertical"]

/-- One step for each name, in the order of the names. -/
def stepsFor (target : Target) (kind : String) (names : List String) : List Step :=
  names.mapIdx fun index name => ⟨kind ++ " " ++ name, target, index⟩

/-- All places of the standard layout: the buttons, then the axes. -/
def standardSteps : List Step :=
  stepsFor .button "Button" buttonNames ++ stepsFor .axis "Axis" axisNames

end PadMapping
