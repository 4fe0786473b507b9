import PadMapping.Export.Basic
import PadMapping.Json.Decode

/-!
# Reading exports

Exports are read as they are written, but with some freedom: keys may come in any order, keys
with other names are passed over, and the result of a step may be left out if it has none.
-/

namespace PadMapping

open Json (Node Decoded Slot RecordShape Problem checkBreak)

/-! ## Targets -/

/-- The target with the given name. -/
def Target.named (name : String) : Decoded Target :=
  match Target.ofName? name with
  | some target => .ok target
  | none => .error (.unknownTarget name)

/-- A target is its name, or an object with its name as the only key and null behind it. -/
def Target.decode : Node → Decoded Target
  | .text pieces broken => do Target.named (← Json.decodeText pieces broken)
  | .object [] broken => .error (.text (broken.getD .malformed))
  | .object ((key, value) :: more) broken => do
    let target ← Target.named (← key.asKey)
    value.asNull
    if !more.isEmpty then throw .malformed
    checkBreak broken
    return target
  | .absent why => .error (.text why)
  | _ => .error .malformed

/-! ## Controls -/

/-- The two keys of a control. -/
structure Control.Slots where
  button : Slot (Option Nat)
  axis : Slot (Option String)

/-- How the keys of a control are read. -/
def Control.shape : RecordShape Control.Slots where
  name := "RawControl"
  fields := ["button", "axis"]
  required := 2
  empty := ⟨none, none⟩
  read
    | "button" => some fun node slots => do
      return { slots with button := ← slots.button.fill "button" (node.orNull Node.asIndex) }
    | "axis" => some fun node slots => do
      return { slots with axis := ← slots.axis.fill "axis" (node.orNull Node.asText) }
    | _ => none

/-- The control that the two keys give: none if both are left out or null. -/
def Control.Slots.control? (slots : Control.Slots) : Decoded (Option Control) :=
  match slots.button.join, slots.axis.join with
  | some _, some _ => .error .bothKinds
  | some index, none => .ok (some (.button index))
  | none, some label =>
    match Control.ofLabel label with
    | .ok control => .ok (some control)
    | .error e => .error (.label e)
  | none, none => .ok none

/-- A control that may be left open. -/
def Control.decode? : Node → Decoded (Option Control) :=
  Control.shape.decode Control.Slots.control?

/-- A control. -/
def Control.decode (node : Node) : Decoded Control := do
  match ← Control.decode? node with
  | some control => return control
  | none => throw .neitherKind

/-! ## Exports -/

/-- The keys of a step and its result. -/
structure Assignment.Slots where
  name : Slot String
  target : Slot Target
  index : Slot Nat
  control : Slot (Option Control)

/-- How the keys of a step are read. -/
def Assignment.shape : RecordShape Assignment.Slots where
  name := "ExportedMapping"
  fields := ["name", "target", "index", "mapsTo"]
  required := 3
  empty := ⟨none, none, none, none⟩
  read
    | "name" => some fun node slots => do
      return { slots with name := ← slots.name.fill "name" node.asText }
    | "target" => some fun node slots => do
      return { slots with target := ← slots.target.fill "target" (Target.decode node) }
    | "index" => some fun node slots => do
      return { slots with index := ← slots.index.fill "index" node.asIndex }
    | "mapsTo" => some fun node slots => do
      return { slots with control := ← slots.control.fill "mapsTo" (Control.decode? node) }
    | _ => none

/-- The step and its result; without a key for it there is none. -/
def Assignment.Slots.assignment (slots : Assignment.Slots) : Decoded Assignment := do
  let name ← slots.name.require "name"
  let target ← slots.target.require "target"
  let index ← slots.index.require "index"
  return ⟨⟨name, target, index⟩, slots.control.join⟩

/-- A step and its result. -/
def Assignment.decode : Node → Decoded Assignment :=
  Assignment.shape.decode Assignment.Slots.assignment

/-- The keys of an export. -/
structure Export.Slots where
  deviceId : Slot String
  assignments : Slot (List Assignment)

/-- How the keys of an export are read. -/
def Export.shape : RecordShape Export.Slots where
  name := "MappingExport"
  fields := ["deviceId", "mappings"]
  required := 2
  empty := ⟨none, none⟩
  read
    | "deviceId" => some fun node slots => do
      return { slots with deviceId := ← slots.deviceId.fill "deviceId" node.asText }
    | "mappings" => some fun node slots => do
      return { slots with
        assignments := ← slots.assignments.fill "mappings" (node.asList Assignment.decode) }
    | _ => none

/-- The export that the keys give. -/
def Export.Slots.toExport (slots : Export.Slots) : Decoded Export := do
  let deviceId ← slots.deviceId.require "deviceId"
  let assignments ← slots.assignments.require "mappings"
  return ⟨deviceId, assignments⟩

/-- An export. -/
def Export.decode : Node → Decoded Export := Export.shape.decode Export.Slots.toExport

/-- Reads the text of an export. -/
def Export.parse (text : String) : Decoded Export := Json.decodeDocument Export.decode text

/-- Reads the text of a control. -/
def Control.parse (text : String) : Decoded Control := Json.decodeDocument Control.decode text

/-- Reads the text of a target. -/
def Target.parse (text : String) : Decoded Target := Json.decodeDocument Target.decode text

end PadMapping
