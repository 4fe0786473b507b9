import PadMapping.Json.Value
import PadMapping.Session

/-!
# Exports

An export is the result of a session together with the id of the device it was made with. It
is written as a JSON object: `deviceId`, and `mappings` with one object for each step. A step
without a control maps to an empty object.
-/

namespace PadMapping

/-- The results of all steps, in their order, and the device they come from. -/
structure Export where
  deviceId : String
  assignments : List Assignment
deriving DecidableEq, Repr

/-- The results of a session so far. -/
def Export.ofSession (deviceId : String) (session : Session) : Export :=
  ⟨deviceId, session.assignments⟩

open Json (Value)

/-- A control as a JSON object with its kind as the only key. -/
def Control.toJson : Control → Value
  | .button index => .object [("button", .natural index)]
  | .axis index direction => .object [("axis", .text (Control.axisLabel index direction))]

/-- A step and its result as a JSON object. -/
def Assignment.toJson (a : Assignment) : Value :=
  .object [
    ("name", .text a.step.name),
    ("target", .text a.step.target.name),
    ("index", .natural a.step.index),
    ("mapsTo", match a.control with
      | none => .object []
      | some control => control.toJson)]

/-- An export as a JSON object. -/
def Export.toJson (e : Export) : Value :=
  .object [
    ("deviceId", .text e.deviceId),
    ("mappings", .array (e.assignments.map Assignment.toJson))]

/-- The text of an export as it is shown and saved. -/
def Export.pretty (e : Export) : String := e.toJson.render .indented

/-- The text of an export in one line. -/
def Export.compact (e : Export) : String := e.toJson.render .compact

end PadMapping
