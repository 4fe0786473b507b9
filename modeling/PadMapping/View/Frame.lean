import PadMapping.Export.Basic
import PadMapping.Reading
import PadMapping.View.Action

/-!
# Frames

A frame is all that is shown to the user at one time: the device, what to do next, the results
so far, the possible actions and, once the session is finished, the export.
-/

namespace PadMapping

/-- What is shown at one time. -/
structure Frame where
  /-- The id of the device, or that there is none. -/
  connection : String
  /-- What the user should do next; nothing without a device. -/
  instruction : String
  /-- The results of all steps; nothing without a device. -/
  rows : List Assignment
  actions : Availability
  /-- The result of a finished session. -/
  result : Option Export
deriving DecidableEq, Repr

namespace Frame

/-- Shown in place of a device id while there is no device. -/
def noConnection : String := "No connection."

/-- The instruction while the session waits. -/
def releaseInstruction : String := "Release all buttons and center all axes"

/-- The instruction once the session is finished. -/
def doneMessage : String :=
  "All done. Please copy the mapping below and send it along with your device name."

/-- The frame without a device. -/
def disconnected : Frame := ⟨noConnection, "", [], .nothing, none⟩

/-- The instruction for a session. -/
def instructionFor (s : Session) : Except Session.Fault String :=
  if s.isDone then .ok doneMessage
  else if s.waiting then .ok releaseInstruction
  else s.currentName.map ("Press " ++ ·)

/-- The frame for a device and a session. -/
def build (device : Option Identity) (s : Session) : Except Session.Fault Frame :=
  match device with
  | none => .ok disconnected
  | some device => do
    let instruction ← instructionFor s
    return {
      connection := device.id
      instruction
      rows := s.assignments
      actions := .ofSession true s
      result := if s.isDone then some (.ofSession device.id s) else none }

end Frame

end PadMapping
