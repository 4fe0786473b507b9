import PadMapping.Binary.Arithmetic
import PadMapping.Control

/-!
# Readings of a device

A reading is the state of all buttons and axes of a connected device at one moment. The rule
for which control it shows is fixed: buttons go before axes and low indices before high ones,
and an axis counts once it is past the threshold on one side.
-/

namespace PadMapping

/-- Which connection a reading comes from. The session number tells connections of one and
the same device apart. -/
structure Identity where
  id : String
  session : Nat
deriving DecidableEq, Repr

/-- The state of a device at one moment, in the device's own order of buttons and axes. -/
structure Reading where
  identity : Identity
  buttons : List Bool
  axes : List Single
deriving DecidableEq, Repr

/-- The side on which an axis is past the threshold. The positive side is tried first, which
matters only for thresholds below zero. -/
def deflection? (threshold value : Single) : Option Direction :=
  if threshold.lt value then some .positive
  else if value.lt threshold.neg then some .negative
  else none

/-- The first axis past the threshold, counting from `index`. -/
def deflected? (threshold : Single) (index : Nat) : List Single → Option Control
  | [] => none
  | value :: rest =>
    match deflection? threshold value with
    | some direction => some (.axis index direction)
    | none => deflected? threshold (index + 1) rest

/-- The control that the states of buttons and axes show: the first pressed button, else the
first axis past the threshold. -/
def activeControl? (buttons : List Bool) (axes : List Single) (threshold : Single) :
    Option Control :=
  match buttons.findIdx? id with
  | some index => some (.button index)
  | none => deflected? threshold 0 axes

/-- The deflection from which an axis counts as pushed unless the settings say otherwise: the
number nearest to 0.8. -/
def defaultThreshold : Single := Binary.round (4 / 5)

namespace Reading

/-- The control that the reading shows. -/
def active? (r : Reading) (threshold : Single) : Option Control :=
  activeControl? r.buttons r.axes threshold

/-- Whether the reading shows no control. -/
def isNeutral (r : Reading) (threshold : Single) : Bool :=
  (r.active? threshold).isNone

end Reading

end PadMapping
