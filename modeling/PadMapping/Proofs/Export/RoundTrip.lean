import PadMapping.Export.Reader
import PadMapping.Proofs.Json.Decode

/-!
# Exports are read back as they were written

An export that is shown or saved is read back as the same export, in either layout, whatever the
texts in it are. The numbers in it have to be indices, as they always are: a control, a step and a
button of a device are numbered with 64 bits.
-/

namespace PadMapping.Proofs

open Json Text

/-! ## Controls -/

/-- The place of a control in the layout of the device. -/
def controlIndex : Control → Nat
  | .button index => index
  | .axis index _ => index

theorem ofLabel_axisLabel {index : Nat} (h : index < wordBound) (direction : Direction) :
    Control.ofLabel (Control.axisLabel index direction) = .ok (.axis index direction) := by
  have hlabel : (Control.axisLabel index direction).toList
      = Nat.toDigits 10 index ++ [direction.sign] := by
    simp [Control.axisLabel]
  have hsign : Direction.ofSign? direction.sign = some direction := by
    cases direction <;> rfl
  rw [Control.ofLabel]
  simp [hlabel, hsign, index?_decimal h]

theorem decode?_control {c : Control} (h : controlIndex c < wordBound) :
    Control.decode? (nodeOf c.toJson) = .ok (some c) := by
  cases c with
  | button index =>
      rw [Control.decode?, Control.toJson, decode_object, memberNodesOf, memberNodesOf,
        readMembers_text rfl]
      have hindex : index < wordBound := h
      rw [orNull_nodeOf, asIndex_nodeOf hindex]
      rfl
  | axis index direction =>
      rw [Control.decode?, Control.toJson, decode_object, memberNodesOf, memberNodesOf,
        readMembers_text rfl]
      have hindex : index < wordBound := h
      rw [orNull_nodeOf, asText_nodeOf]
      show Control.Slots.control? ⟨none, some (some (Control.axisLabel index direction))⟩ = _
      simp [Control.Slots.control?, ofLabel_axisLabel hindex]

/-! ## Steps and their results -/

/-- All numbers of an assignment are indices. -/
structure Numbered (a : Assignment) : Prop where
  step : a.step.index < wordBound
  control : ∀ c, a.control = some c → controlIndex c < wordBound

theorem decode_target (t : Target) : Target.decode (nodeOf (.text t.name)) = .ok t := by
  rw [nodeOf, Target.decode, decodeText_piecesOf]
  cases t <;> rfl

/-- A step is read back together with its result. -/
theorem decode_assignment_of {a : Assignment} {result : Value} (hindex : a.step.index < wordBound)
    (hresult : Control.decode? (nodeOf result) = .ok a.control) :
    Assignment.decode (nodeOf (.object [("name", .text a.step.name),
      ("target", .text a.step.target.name), ("index", .natural a.step.index),
      ("mapsTo", result)])) = .ok a := by
  rw [Assignment.decode, decode_object]
  simp only [memberNodesOf]
  -- one member after the other fills its slot
  rw [readMembers_text rfl, asText_nodeOf]
  show (Assignment.shape.readMembers ⟨some a.step.name, none, none, none⟩ _
    >>= Assignment.Slots.assignment) = _
  rw [readMembers_text rfl, decode_target]
  show (Assignment.shape.readMembers ⟨some a.step.name, some a.step.target, none, none⟩ _
    >>= Assignment.Slots.assignment) = _
  rw [readMembers_text rfl, asIndex_nodeOf hindex]
  show (Assignment.shape.readMembers
      ⟨some a.step.name, some a.step.target, some a.step.index, none⟩ _
    >>= Assignment.Slots.assignment) = _
  rw [readMembers_text rfl, hresult]
  rfl

theorem decode_assignment {a : Assignment} (h : Numbered a) :
    Assignment.decode (nodeOf a.toJson) = .ok a := by
  obtain ⟨step, control⟩ := a
  cases control with
  | none => exact decode_assignment_of (a := ⟨step, none⟩) h.step rfl
  | some control =>
      exact decode_assignment_of (a := ⟨step, some control⟩) h.step
        (decode?_control (h.control control rfl))

/-! ## Exports -/

theorem decode_export {e : Export} (h : ∀ a ∈ e.assignments, Numbered a) :
    Export.decode (nodeOf e.toJson) = .ok e := by
  have hlist := asList_nodeOf Assignment.decode Assignment.toJson
    fun a ha => decode_assignment (h a ha)
  rw [Export.decode, Export.toJson, decode_object]
  simp only [memberNodesOf]
  rw [readMembers_text rfl, asText_nodeOf]
  show (Export.shape.readMembers ⟨some e.deviceId, none⟩ _ >>= Export.Slots.toExport) = _
  rw [readMembers_text rfl, hlist]
  rfl

/-- The layout of the text does not matter. -/
theorem parse_layout {e : Export} (h : ∀ a ∈ e.assignments, Numbered a) (layout : Layout) :
    Export.parse (e.toJson.render layout) = .ok e := by
  rw [Export.parse, decodeDocument, ofText_render]
  show (do let value ← Export.decode (nodeOf e.toJson); _) = _
  rw [decode_export h]
  rfl

/-- **An export is read back as it was written**, from its text over many lines as well as from its
text in one line. -/
theorem parse_render {e : Export} (h : ∀ a ∈ e.assignments, Numbered a) :
    Export.parse e.pretty = .ok e ∧ Export.parse e.compact = .ok e :=
  ⟨parse_layout h .indented, parse_layout h .compact⟩

/-- An export with all that is troublesome: quotes, a backslash, a line end, the zero character, a
character of two units, the last index, and a step without a control. -/
def strangeExport : Export where
  deviceId := "\"Pad\" \\ \n\x00 🎮"
  assignments := [
    ⟨⟨"A/B", .button, 0⟩, none⟩,
    ⟨⟨"", .button, 18446744073709551615⟩, some (.button 18446744073709551615)⟩,
    ⟨⟨"\t", .axis, 3⟩, some (.axis 18446744073709551615 .negative)⟩]

theorem parse_render_strangeExport :
    Export.parse strangeExport.pretty = .ok strangeExport
      ∧ Export.parse strangeExport.compact = .ok strangeExport := by
  refine parse_render ?_
  intro a ha
  have hbound : 18446744073709551615 < wordBound := by decide
  simp only [strangeExport, List.mem_cons, List.not_mem_nil, or_false] at ha
  rcases ha with rfl | rfl | rfl
  · exact ⟨by decide, by simp⟩
  · exact ⟨hbound, by simp [controlIndex, hbound]⟩
  · exact ⟨by decide, by simp [controlIndex, hbound]⟩

end PadMapping.Proofs
