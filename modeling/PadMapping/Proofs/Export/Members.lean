import PadMapping.Export.Reader
import PadMapping.Proofs.Json.Record

/-!
# The records of an export

An export, each of its mappings and each control in it is a record. This module lists their fields,
so that all that is known of records holds of them. Since every field is read from whole trees only,
so is every record, from the control up to the export.
-/

namespace PadMapping.Proofs

open Json

/-! ## Controls -/

/-- The button of a control, which may be null. -/
def buttonField : RecordField Control.Slots where
  α := Option Nat
  name := "button"
  get := Control.Slots.button
  put := fun slots button => { slots with button }
  decode := Node.orNull Node.asIndex

/-- The axis of a control, which may be null. -/
def axisField : RecordField Control.Slots where
  α := Option String
  name := "axis"
  get := Control.Slots.axis
  put := fun slots axis => { slots with axis }
  decode := Node.orNull Node.asText

/-- The fields of a control. -/
def controlFields : List (RecordField Control.Slots) := [buttonField, axisField]

theorem fielded_control : Fielded Control.shape controlFields where
  names := rfl
  distinct := by decide
  required := by decide
  read_field := List.forall_mem_cons.mpr ⟨rfl, List.forall_mem_singleton.mpr rfl⟩
  read_other := by
    intro key hkey
    simp only [Control.shape]
    split
    · exact absurd (by decide) hkey
    · exact absurd (by decide) hkey
    · rfl
  get_put := by simp [controlFields, buttonField, axisField]
  get_put_ne := by simp [controlFields, buttonField, axisField]
  get_empty := by simp [controlFields, buttonField, axisField, Control.shape]
  ext := by
    rintro ⟨button, axis⟩ ⟨button', axis'⟩ h
    simpa [controlFields, buttonField, axisField] using h
  whole := List.forall_mem_cons.mpr ⟨readsWhole_orNull readsWhole_asIndex,
    List.forall_mem_singleton.mpr (readsWhole_orNull readsWhole_asText)⟩

theorem readsWhole_control? : ReadsWhole Control.decode? :=
  readsWhole_record fielded_control.fieldsWhole _

/-! ## Mappings -/

/-- A target is a text, or an object with a single key and a null behind it. -/
theorem readsWhole_target : ReadsWhole Target.decode := by
  intro node target hread
  unfold Target.decode at hread
  split at hread
  · obtain ⟨name, htext, _⟩ := ok_of_bind hread
    exact ⟨.text _, by rw [Phrase.node, eq_none_of_decodeText htext]⟩
  · cases hread
  · rename_i key value more broken
    obtain ⟨name, hkey, hread⟩ := ok_of_bind hread
    obtain ⟨_, _, hread⟩ := ok_of_bind hread
    obtain ⟨_, hnull, hread⟩ := ok_of_bind hread
    -- there is no other key
    cases more with
    | cons member more => cases hread
    | nil =>
        obtain ⟨_, hbroken, _⟩ := ok_of_bind hread
        rw [eq_none_of_checkBreak hbroken]
        refine whole_object (List.forall_mem_singleton.mpr ?_)
        exact ⟨text_of_asKey hkey, readsWhole_asNull value _ hnull⟩
  · cases hread
  · cases hread

/-- The name of a step. -/
def nameField : RecordField Assignment.Slots where
  α := String
  name := "name"
  get := Assignment.Slots.name
  put := fun slots name => { slots with name }
  decode := Node.asText

/-- The target of a step. -/
def targetField : RecordField Assignment.Slots where
  α := Target
  name := "target"
  get := Assignment.Slots.target
  put := fun slots target => { slots with target }
  decode := Target.decode

/-- The index of a step. -/
def indexField : RecordField Assignment.Slots where
  α := Nat
  name := "index"
  get := Assignment.Slots.index
  put := fun slots index => { slots with index }
  decode := Node.asIndex

/-- The result of a step, which may be left out. -/
def mapsToField : RecordField Assignment.Slots where
  α := Option Control
  name := "mapsTo"
  get := Assignment.Slots.control
  put := fun slots control => { slots with control }
  decode := Control.decode?

/-- The fields of a mapping. -/
def assignmentFields : List (RecordField Assignment.Slots) :=
  [nameField, targetField, indexField, mapsToField]

theorem fielded_assignment : Fielded Assignment.shape assignmentFields where
  names := rfl
  distinct := by decide
  required := by decide
  read_field := List.forall_mem_cons.mpr ⟨rfl, List.forall_mem_cons.mpr ⟨rfl,
    List.forall_mem_cons.mpr ⟨rfl, List.forall_mem_singleton.mpr rfl⟩⟩⟩
  read_other := by
    intro key hkey
    simp only [Assignment.shape]
    split
    · exact absurd (by decide) hkey
    · exact absurd (by decide) hkey
    · exact absurd (by decide) hkey
    · exact absurd (by decide) hkey
    · rfl
  get_put := by simp [assignmentFields, nameField, targetField, indexField, mapsToField]
  get_put_ne := by simp [assignmentFields, nameField, targetField, indexField, mapsToField]
  get_empty := by
    simp [assignmentFields, nameField, targetField, indexField, mapsToField, Assignment.shape]
  ext := by
    rintro ⟨name, target, index, control⟩ ⟨name', target', index', control'⟩ h
    simpa [assignmentFields, nameField, targetField, indexField, mapsToField] using h
  whole := List.forall_mem_cons.mpr ⟨readsWhole_asText, List.forall_mem_cons.mpr ⟨readsWhole_target,
    List.forall_mem_cons.mpr ⟨readsWhole_asIndex,
      List.forall_mem_singleton.mpr readsWhole_control?⟩⟩⟩

theorem readsWhole_assignment : ReadsWhole Assignment.decode :=
  readsWhole_record fielded_assignment.fieldsWhole _

/-! ## Exports -/

/-- The id of the device. -/
def deviceIdField : RecordField Export.Slots where
  α := String
  name := "deviceId"
  get := Export.Slots.deviceId
  put := fun slots deviceId => { slots with deviceId }
  decode := Node.asText

/-- The mappings of an export. -/
def mappingsField : RecordField Export.Slots where
  α := List Assignment
  name := "mappings"
  get := Export.Slots.assignments
  put := fun slots assignments => { slots with assignments }
  decode := Node.asList Assignment.decode

/-- The fields of an export. -/
def exportFields : List (RecordField Export.Slots) := [deviceIdField, mappingsField]

theorem fielded_export : Fielded Export.shape exportFields where
  names := rfl
  distinct := by decide
  required := by decide
  read_field := List.forall_mem_cons.mpr ⟨rfl, List.forall_mem_singleton.mpr rfl⟩
  read_other := by
    intro key hkey
    simp only [Export.shape]
    split
    · exact absurd (by decide) hkey
    · exact absurd (by decide) hkey
    · rfl
  get_put := by simp [exportFields, deviceIdField, mappingsField]
  get_put_ne := by simp [exportFields, deviceIdField, mappingsField]
  get_empty := by simp [exportFields, deviceIdField, mappingsField, Export.shape]
  ext := by
    rintro ⟨deviceId, assignments⟩ ⟨deviceId', assignments'⟩ h
    simpa [exportFields, deviceIdField, mappingsField] using h
  whole := List.forall_mem_cons.mpr ⟨readsWhole_asText,
    List.forall_mem_singleton.mpr (readsWhole_asList readsWhole_assignment)⟩

theorem readsWhole_export : ReadsWhole Export.decode :=
  readsWhole_record fielded_export.fieldsWhole _

end PadMapping.Proofs
