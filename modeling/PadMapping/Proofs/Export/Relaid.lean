import Mathlib.Logic.Relation
import PadMapping.Proofs.Export.Controls

/-!
# Exports in another layout

An export may be edited by hand. What is loaded from it does not change with the order of the
members in its objects, with white space, with members that nobody asks for, or with a control that
is empty or left out. A field that is named twice is never accepted, however its name is spelled.

One change is made at one spot: in the export itself, in one of its mappings or in one of its
controls. At each of them a record is read, so a change is looked at for records as such and is then
carried through the gap it is made in. A whole edit is one change after another.
-/

namespace PadMapping.Proofs

open Json

/-! ## Changes of a record -/

section

variable {slots α : Type} {shape : RecordShape slots} {fields : List (RecordField slots)}
variable {finish : slots → Decoded α} {members : Members} {a : α}

theorem Fielded.decode_object_iff (h : Fielded shape fields) :
    shape.decode finish (Phrase.object members).node = .ok a
      ↔ ∃ state, ReadAs fields members state ∧ finish state = .ok a := by
  rw [h.decode_eq_ok_iff]
  simp only [membersOf, Option.some.injEq, exists_eq_left']

theorem Fielded.decode_of_perm (h : Fielded shape fields) {members' : Members}
    (hperm : members.Perm members')
    (hread : shape.decode finish (Phrase.object members).node = .ok a) :
    shape.decode finish (Phrase.object members').node = .ok a := by
  obtain ⟨state, hstate, hfinish⟩ := h.decode_object_iff.mp hread
  exact h.decode_object_iff.mpr ⟨state, hstate.perm hperm, hfinish⟩

theorem Fielded.decode_of_inserted (h : Fielded shape fields) {before after : Members}
    {key : List Piece} {name : String} (hkey : keyOf key = some name) (hname : name ∉ shape.fields)
    (value : Phrase)
    (hread : shape.decode finish (Phrase.object (before ++ after)).node = .ok a) :
    shape.decode finish (Phrase.object (before ++ (key, value) :: after)).node = .ok a := by
  rw [h.names] at hname
  obtain ⟨state, hstate, hfinish⟩ := h.decode_object_iff.mp hread
  refine h.decode_object_iff.mpr ⟨state, readAs_middle_iff.mpr ?_, hfinish⟩
  exact (readAs_cons_other_iff hkey hname).mpr hstate

theorem Fielded.decode_ne_ok_of_repeated (h : Fielded shape fields) {name : String}
    (hname : name ∈ shape.fields) (htwice : 2 ≤ (valuesOf name members).length) :
    shape.decode finish (Phrase.object members).node ≠ .ok a := by
  intro hread
  rw [h.names] at hname
  obtain ⟨f, hf, rfl⟩ := List.mem_map.mp hname
  obtain ⟨state, hstate, _⟩ := h.decode_object_iff.mp hread
  have honce := (hstate.filled f hf).length_le
  omega

end

/-! ## Spots -/

/-- A place of an export where an object is read as a record. -/
inductive Spot where
  | exported
  | mapping (gap : MappingGap)
  | control (gap : ControlGap)

namespace Spot

/-- The export with a value at the spot. -/
def fill : Spot → Phrase → Phrase
  | exported, p => p
  | mapping gap, p => gap.fill p
  | control gap, p => gap.fill p

/-- The names of the fields at the spot. -/
def fields : Spot → List String
  | exported => Export.shape.fields
  | mapping _ => Assignment.shape.fields
  | control _ => Control.shape.fields

/-- Whatever is read from the export, a record with the fields of the spot is read from what is
there, and the same is read from the export with any value of which this record is read. -/
theorem exists_record {p : Phrase} {e : Export} (spot : Spot)
    (hread : Export.decode (spot.fill p).node = .ok e) :
    ∃ (slots α : Type) (shape : RecordShape slots) (fields : List (RecordField slots))
      (finish : slots → Decoded α) (a : α), Fielded shape fields ∧ shape.fields = spot.fields
        ∧ shape.decode finish p.node = .ok a
        ∧ ∀ q : Phrase, shape.decode finish q.node = .ok a →
          Export.decode (spot.fill q).node = .ok e := by
  cases spot with
  | exported => exact ⟨_, _, _, _, _, e, fielded_export, rfl, hread, fun _ hq => hq⟩
  | mapping gap =>
      obtain ⟨deviceId, front, back, _, hfill⟩ := gap.decode_fill_iff hread
      obtain ⟨a, ha, he⟩ := (hfill p e).mp hread
      refine ⟨_, _, _, _, _, a, fielded_assignment, rfl, ha, ?_⟩
      exact fun q hq => (hfill q e).mpr ⟨a, hq, he⟩
  | control gap =>
      obtain ⟨deviceId, front, step, back, _, hfill⟩ := gap.decode_fill_iff hread
      obtain ⟨control, hcontrol, he⟩ := (hfill p e).mp hread
      refine ⟨_, _, _, _, _, control, fielded_control, rfl, hcontrol, ?_⟩
      exact fun q hq => (hfill q e).mpr ⟨control, hq, he⟩

end Spot

/-! ## Changes of an export -/

/-- One change that leaves no trace. White space is not among them, as it is no part of a phrase,
and neither is the spelling of a text. -/
inductive Relaid : Phrase → Phrase → Prop where
  /-- The members of an object are put in another order. -/
  | permuted (spot : Spot) {members members' : Members} (hperm : members.Perm members') :
      Relaid (spot.fill (.object members)) (spot.fill (.object members'))
  /-- A member is added whose key is the name of no field, with any value. A key is a text: what has
  half of a character in it names nothing. -/
  | inserted (spot : Spot) {before after : Members} {key : List Piece} {name : String}
      (hkey : keyOf key = some name) (hname : name ∉ spot.fields) (value : Phrase) :
      Relaid (spot.fill (.object (before ++ after)))
        (spot.fill (.object (before ++ (key, value) :: after)))
  /-- A control with neither of its keys is left out. -/
  | dropped (gap : MappingGap) {before after : Members} {key : List Piece} {control : Members}
      (hkey : keyOf key = some "mapsTo") (hbutton : valuesOf "button" control = [])
      (haxis : valuesOf "axis" control = []) :
      Relaid (gap.fill (.object (before ++ (key, .object control) :: after)))
        (gap.fill (.object (before ++ after)))

/-- The members of an object are replaced by such that name a field more than once. So they do when
a member is added for a field that has one. -/
inductive Repeated : Phrase → Phrase → Prop where
  | repeated (spot : Spot) {members members' : Members} {name : String} (hname : name ∈ spot.fields)
      (htwice : 2 ≤ (valuesOf name members').length) :
      Repeated (spot.fill (.object members)) (spot.fill (.object members'))

/-- Without its control a mapping is read as it is with an empty one. -/
theorem decode_assignment_of_dropped {before after : Members} {key : List Piece} {control : Members}
    (hkey : keyOf key = some "mapsTo") (hbutton : valuesOf "button" control = [])
    (haxis : valuesOf "axis" control = []) {a : Assignment}
    (hread : Assignment.decode
      (Phrase.object (before ++ (key, .object control) :: after)).node = .ok a) :
    Assignment.decode (Phrase.object (before ++ after)).node = .ok a := by
  have hmember : mapsToField ∈ assignmentFields := by simp [assignmentFields]
  obtain ⟨slots, hslots, hfinish⟩ := fielded_assignment.decode_object_iff.mp hread
  obtain ⟨hrest, result, hcontrol, hslot⟩ :=
    (fielded_assignment.readAs_cons_iff hmember hkey).mp (readAs_middle_iff.mp hslots)
  -- what is read is in good form, so it is read as no control
  obtain ⟨_, hnamed, _⟩ := fielded_control.decode_object_iff.mp hcontrol
  have hnone : Control.decode? (Phrase.object control).node = .ok none :=
    decode?_eq_none_iff.mpr ⟨control, rfl, hnamed.named, .inl hbutton, .inl haxis⟩
  have hempty : slots.control = some none := by
    rw [show slots.control = some result from hslot]
    rw [show Control.decode? (Phrase.object control).node = .ok result from hcontrol] at hnone
    cases hnone
    rfl
  refine fielded_assignment.decode_object_iff.mpr ⟨_, hrest, ?_⟩
  rw [← hfinish]
  simp only [Assignment.Slots.assignment, mapsToField, hempty]
  rfl

theorem Relaid.decode {p q : Phrase} {e : Export} (h : Relaid p q)
    (hread : Export.decode p.node = .ok e) : Export.decode q.node = .ok e := by
  cases h with
  | permuted spot hperm =>
      obtain ⟨_, _, _, _, _, a, hf, _, ha, hfill⟩ := spot.exists_record hread
      exact hfill _ (hf.decode_of_perm hperm ha)
  | inserted spot hkey hname value =>
      obtain ⟨_, _, _, _, _, a, hf, hfields, ha, hfill⟩ := spot.exists_record hread
      exact hfill _ (hf.decode_of_inserted hkey (hfields ▸ hname) value ha)
  | dropped gap hkey hbutton haxis =>
      -- this is no change of a record on its own: that the control is empty counts
      obtain ⟨deviceId, front, back, _, hfill⟩ := gap.decode_fill_iff hread
      obtain ⟨a, ha, he⟩ := (hfill _ e).mp hread
      exact (hfill _ e).mpr ⟨a, decode_assignment_of_dropped hkey hbutton haxis ha, he⟩

theorem decode_of_relaid {p q : Phrase} {e : Export} (h : Relation.ReflTransGen Relaid p q)
    (hread : Export.decode p.node = .ok e) : Export.decode q.node = .ok e := by
  induction h with
  | refl => exact hread
  | tail _ hstep ih => exact hstep.decode ih

theorem Repeated.decode_ne_ok {p q : Phrase} (h : Repeated p q) (e : Export) :
    Export.decode q.node ≠ .ok e := by
  intro hread
  cases h with
  | repeated spot hname htwice =>
      obtain ⟨_, _, _, _, _, a, hf, hfields, ha, _⟩ := spot.exists_record hread
      exact hf.decode_ne_ok_of_repeated (hfields ▸ hname) htwice ha

/--
**What is loaded does not depend on layout.**

A text that can be loaded is written for a phrase. Every text that is written for this phrase, or
for one that comes out of it by changes of layout, is loaded as the same export. A text in which a
field is repeated cannot be loaded.

A member that is added has a text for its key. Keys in which half of a surrogate pair is written
stand for no text and are not among them; nothing is said here of documents that have such keys
added.
-/
theorem load_of_relaid {t : String} {e : Export} (h : Export.ofBytes t.toUTF8 = .ok e) :
    (∃ p : Phrase, Written p.tokens t.toList)
      ∧ ∀ p : Phrase, Written p.tokens t.toList →
        (∀ (q : Phrase) (t' : String), Relation.ReflTransGen Relaid p q →
          Written q.tokens t'.toList → Export.ofBytes t'.toUTF8 = .ok e)
        ∧ ∀ (q : Phrase) (t' : String), Repeated p q →
          Written q.tokens t'.toList → FailsToLoad t' := by
  rw [ofBytes_eq_ok_iff] at h
  constructor
  · -- what is read is whole, so it is written for something
    obtain ⟨p, hp, _⟩ := (decodeDocument_eq_ok_iff readsWhole_export).mp h
    exact ⟨p, hp⟩
  intro p hp
  rw [Export.parse, decodeDocument_of_written hp] at h
  constructor
  · intro q t' hrelaid hq
    rw [ofBytes_eq_ok_iff, Export.parse, decodeDocument_of_written hq]
    exact decode_of_relaid hrelaid h
  · intro q t' hrepeated hq
    rw [failsToLoad_iff, Export.parse, decodeDocument_of_written hq]
    exact hrepeated.decode_ne_ok

/-- An export after an edit: its members are in another order, there is a comment, and the control
that was empty is gone. -/
def editedExport : Value :=
  .object [
    ("comment", .text "by hand"),
    ("mappings", .array [.object [
      ("index", .natural 0),
      ("name", .text "A"),
      ("target", .text "button")]]),
    ("deviceId", .text "x")]

theorem relaid_editedExport : Relation.ReflTransGen Relaid
    (phraseOf (singleExport (.object []))) (phraseOf editedExport) := by
  let name : List Piece × Phrase := (piecesOf "name", phraseOf (.text "A"))
  let target : List Piece × Phrase := (piecesOf "target", phraseOf (.text "button"))
  let index : List Piece × Phrase := (piecesOf "index", phraseOf (.natural 0))
  let deviceId : List Piece × Phrase := (piecesOf "deviceId", phraseOf (.text "x"))
  let mappings : List Piece × Phrase :=
    (piecesOf "mappings", .array [.object [index, name, target]])
  have hdropped := @Relaid.dropped singleGap.mapping [name, target, index] []
    (piecesOf "mapsTo") [] (keyOf_piecesOf _) rfl rfl
  have hmapping := @Relaid.permuted (.mapping singleGap.mapping) _ _
    (@List.perm_append_comm _ [name, target] [index])
  have hexport := @Relaid.permuted .exported _ _ (List.Perm.swap mappings deviceId [])
  have hcomment := @Relaid.inserted .exported [] [mappings, deviceId] _ _
    (keyOf_piecesOf "comment") (by decide) (phraseOf (.text "by hand"))
  exact (((Relation.ReflTransGen.single hdropped).tail hmapping).tail hexport).tail hcomment

/-- An export with two ids. -/
def repeatedExport : Value :=
  .object [("deviceId", .text "x"), ("deviceId", .text "x"), ("mappings", .array [])]

theorem load_editedExport :
    Export.ofBytes (editedExport.render .indented).toUTF8
        = .ok ⟨"x", [⟨⟨"A", .button, 0⟩, none⟩]⟩
      ∧ FailsToLoad (repeatedExport.render .compact) := by
  obtain ⟨_, hload⟩ := load_of_relaid ofBytes_singleExport
  obtain ⟨hrelaid, hrepeated⟩ := hload _ (written_render .compact _)
  constructor
  · exact hrelaid _ _ relaid_editedExport (written_render .indented _)
  · refine hrepeated (phraseOf repeatedExport) _ ?_ (written_render .compact _)
    exact @Repeated.repeated .exported _ _ "deviceId" (by decide) (by decide)

end PadMapping.Proofs
