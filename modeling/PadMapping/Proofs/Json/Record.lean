import Mathlib.Data.List.Nodup
import PadMapping.Proofs.Json.Decode
import PadMapping.Proofs.Json.Whole

/-!
# What a record says

A record is read member by member, and every member either fills the slot of a field or is passed
over. What comes of it can be said without the order of the members: every key has to be a text, a
field may be named at most once, and the slot of a field holds what the value with its name is
decoded as. That is `ReadAs`, and `decode_eq_ok_iff` is all that is used of records from there on.
An array stands for the object that names the fields in their order.

`Fielded` lists what is needed of a shape for this: which slot belongs to which field, and that the
slots do not get in each other's way.
-/

namespace PadMapping.Proofs

open Json

/-! ## Keys -/

/-- The members of an object. -/
abbrev Members := List (List Piece × Phrase)

/-- The text of a key; none if half of a character in it has no other half. -/
def keyOf (key : List Piece) : Option String := (decodeText key none).toOption

/-- The values behind the keys with the given text. -/
def valuesOf (name : String) (members : Members) : List Phrase :=
  (members.filter fun m => keyOf m.1 == some name).map Prod.snd

theorem asKey_eq_ok_iff {key : List Piece} {name : String} :
    (Node.text key none).asKey = .ok name ↔ keyOf key = some name := by
  rw [keyOf, Node.asKey]
  cases decodeText key none with
  | error e => simp [Except.toOption]
  | ok s => simp [Except.toOption]

@[simp] theorem keyOf_piecesOf (s : String) : keyOf (piecesOf s) = some s := by
  rw [keyOf, decodeText_piecesOf]
  rfl

@[simp] theorem valuesOf_nil (name : String) : valuesOf name [] = [] := rfl

theorem valuesOf_cons_of_key {key : List Piece} {name : String} (h : keyOf key = some name)
    (value : Phrase) (members : Members) :
    valuesOf name ((key, value) :: members) = value :: valuesOf name members := by
  simp [valuesOf, h]

theorem valuesOf_cons_of_ne {key : List Piece} {name : String} (h : keyOf key ≠ some name)
    (value : Phrase) (members : Members) :
    valuesOf name ((key, value) :: members) = valuesOf name members := by
  simp [valuesOf, h]

theorem valuesOf_append (name : String) (front back : Members) :
    valuesOf name (front ++ back) = valuesOf name front ++ valuesOf name back := by
  simp [valuesOf]

theorem valuesOf_perm {members members' : Members} (h : members.Perm members') (name : String) :
    (valuesOf name members).Perm (valuesOf name members') :=
  (h.filter _).map _

/-! ## Slots -/

section

variable {α : Type} {decode : Node → Decoded α} {slot slot' : Slot α}
variable {p : Phrase} {ps : List Phrase}

/-- What becomes of a slot when the values of its field are read one after another: it stays as it
is without a value, and is filled by one if it was empty. There is no reading a second value. -/
inductive Filled (decode : Node → Decoded α) : Slot α → List Phrase → Slot α → Prop where
  | kept {slot : Slot α} : Filled decode slot [] slot
  | read {p : Phrase} {a : α} (hread : decode p.node = .ok a) : Filled decode none [p] (some a)

theorem filled_nil_iff : Filled decode slot [] slot' ↔ slot' = slot := by
  constructor
  · rintro ⟨⟩
    rfl
  · rintro rfl
    exact .kept

theorem filled_cons_iff : Filled decode slot (p :: ps) slot'
    ↔ slot = none ∧ ps = [] ∧ ∃ a, decode p.node = .ok a ∧ slot' = some a := by
  constructor
  · rintro ⟨⟩
    rename_i a hread
    exact ⟨rfl, rfl, a, hread, rfl⟩
  · rintro ⟨rfl, rfl, a, hread, rfl⟩
    exact .read hread

theorem Filled.perm {ps' : List Phrase} (h : Filled decode slot ps slot') (hps : ps.Perm ps') :
    Filled decode slot ps' slot' := by
  cases h with
  | kept =>
      rw [List.nil_perm.mp hps]
      exact .kept
  | read hread =>
      rw [List.perm_singleton.mp hps.symm]
      exact .read hread

theorem Filled.append {slot'' : Slot α} {qs : List Phrase} (h : Filled decode slot ps slot')
    (h' : Filled decode slot' qs slot'') : Filled decode slot (ps ++ qs) slot'' := by
  cases h with
  | kept => exact h'
  | read hread =>
      cases h' with
      | kept => exact .read hread

/-- A slot takes one value at most. -/
theorem Filled.length_le (h : Filled decode slot ps slot') : ps.length ≤ 1 := by
  cases h with
  | kept => exact Nat.zero_le 1
  | read _ => exact Nat.le_refl 1

/-- What is read is determined by the values. -/
theorem Filled.unique {slot'' : Slot α} (h : Filled decode slot ps slot')
    (h' : Filled decode slot ps slot'') : slot' = slot'' := by
  cases h with
  | kept => exact (filled_nil_iff.mp h').symm
  | read hread =>
      obtain ⟨_, _, b, hread', rfl⟩ := filled_cons_iff.mp h'
      rw [hread] at hread'
      injection hread' with hab
      rw [hab]

end

/-! ## Fields -/

/-- A field of a record: where its value is kept, and how it is read. -/
structure RecordField (slots : Type) where
  α : Type
  name : String
  get : slots → Slot α
  put : slots → Slot α → slots
  decode : Node → Decoded α

/-- Reads a value into the slot of a field. -/
def RecordField.fill {slots : Type} (f : RecordField slots) (value : Node) (state : slots) :
    Decoded slots := do
  return f.put state (← (f.get state).fill f.name (f.decode value))

/-- The fields of a record, in their order. -/
structure Fielded {slots : Type} (shape : RecordShape slots) (fields : List (RecordField slots)) :
    Prop where
  names : shape.fields = fields.map RecordField.name
  distinct : (fields.map RecordField.name).Nodup
  required : shape.required ≤ fields.length
  /-- The name of a field leads to its slot. -/
  read_field : ∀ f ∈ fields, shape.read f.name = some f.fill
  /-- No other key leads anywhere. -/
  read_other : ∀ key, key ∉ fields.map RecordField.name → shape.read key = none
  get_put : ∀ f ∈ fields, ∀ state slot, f.get (f.put state slot) = slot
  /-- Filling a slot leaves the others as they are. -/
  get_put_ne : ∀ f ∈ fields, ∀ g ∈ fields, f.name ≠ g.name → ∀ state slot,
    g.get (f.put state slot) = g.get state
  get_empty : ∀ f ∈ fields, f.get shape.empty = none
  /-- There is nothing but the slots. -/
  ext : ∀ state state', (∀ f ∈ fields, f.get state = f.get state') → state = state'
  whole : ∀ f ∈ fields, ReadsWhole f.decode

theorem fill_eq_ok_iff {slots : Type} {f : RecordField slots} {value : Node}
    {state state' : slots} : f.fill value state = .ok state'
      ↔ f.get state = none ∧ ∃ a, f.decode value = .ok a ∧ state' = f.put state (some a) := by
  rw [RecordField.fill]
  cases f.get state with
  | some b => simp [Slot.fill, bind, Except.bind]
  | none =>
      cases f.decode value with
      | error e => simp [Slot.fill, bind, Except.bind, Functor.map, Except.map]
      | ok a => simp [Slot.fill, bind, Except.bind, Functor.map, Except.map, pure, Except.pure,
          eq_comm]

/-! ## Passing over phrases -/

mutual

theorem skip_node : ∀ p : Phrase, p.node.skip = .ok ()
  | .null | .bool _ | .number _ => by
      rw [Phrase.node, Node.skip]
  | .text _ => by
      rw [Phrase.node, Node.skip]
      rfl
  | .array items => by
      rw [Phrase.node, Node.skip, skip_nodes items]
      rfl
  | .object members => by
      rw [Phrase.node, Node.skip, skip_memberNodes members]
      rfl

theorem skip_nodes : ∀ items : List Phrase, skipItems (Phrase.nodes items) = .ok ()
  | [] => rfl
  | item :: items => by
      rw [Phrase.nodes, skipItems, skip_node item]
      exact skip_nodes items

theorem skip_memberNodes : ∀ members : Members, skipMembers (Phrase.memberNodes members) = .ok ()
  | [] => rfl
  | (key, value) :: members => by
      rw [Phrase.memberNodes, skipMembers, skipMember]
      show (do value.node.skip; skipMembers _) = _
      rw [skip_node value]
      exact skip_memberNodes members

end

section

variable {slots α : Type} {shape : RecordShape slots} {fields : List (RecordField slots)}
variable {members : Members}

/-! ## Objects -/

/-- What the members of an object say, in any order. -/
structure ReadAs (fields : List (RecordField slots)) (members : Members) (state : slots) :
    Prop where
  /-- Every key is a text. -/
  named : ∀ m ∈ members, (keyOf m.1).isSome = true
  /-- A slot holds the value with its name, of which there is at most one. -/
  filled : ∀ f ∈ fields, Filled f.decode none (valuesOf f.name members) (f.get state)

theorem Fielded.eq_of_name (h : Fielded shape fields) {f g : RecordField slots} (hf : f ∈ fields)
    (hg : g ∈ fields) (hname : f.name = g.name) : f = g :=
  List.inj_on_of_nodup_map h.distinct hf hg hname

/-- Reading a member and going on. -/
theorem readMembers_cons_eq_ok_iff {key : List Piece} {value : Phrase} {state state' : slots} :
    shape.readMembers state (Phrase.memberNodes ((key, value) :: members)) = .ok state'
      ↔ ∃ name, keyOf key = some name ∧ ∃ middle, shape.readField name value.node state = .ok middle
        ∧ shape.readMembers middle (Phrase.memberNodes members) = .ok state' := by
  rw [Phrase.memberNodes, RecordShape.readMembers]
  constructor
  · intro hread
    obtain ⟨name, hkey, hread⟩ := ok_of_bind hread
    obtain ⟨middle, hfield, hrest⟩ := ok_of_bind hread
    exact ⟨name, asKey_eq_ok_iff.mp hkey, middle, hfield, hrest⟩
  · rintro ⟨name, hkey, middle, hfield, hrest⟩
    rw [asKey_eq_ok_iff.mpr hkey]
    show (do shape.readMembers (← shape.readField name value.node state) _) = _
    rw [hfield]
    exact hrest

theorem Fielded.readField_of_mem (h : Fielded shape fields) {f : RecordField slots}
    (hf : f ∈ fields) (value : Node) (state : slots) :
    shape.readField f.name value state = f.fill value state := by
  rw [RecordShape.readField, h.read_field f hf]

theorem Fielded.readField_other (h : Fielded shape fields) {name : String}
    (hname : name ∉ fields.map RecordField.name) (p : Phrase) (state : slots) :
    shape.readField name p.node state = .ok state := by
  rw [RecordShape.readField, h.read_other name hname, skip_node]
  rfl

theorem Fielded.fieldsWhole (h : Fielded shape fields) : FieldsWhole shape := by
  intro key read hread state node state' hstate
  by_cases hkey : key ∈ fields.map RecordField.name
  · obtain ⟨f, hf, rfl⟩ := List.mem_map.mp hkey
    rw [h.read_field f hf] at hread
    cases hread
    obtain ⟨_, a, hvalue, _⟩ := fill_eq_ok_iff.mp hstate
    exact h.whole f hf node a hvalue
  · rw [h.read_other key hkey] at hread
    cases hread

/-- Reading a member fills the slot with its name, or none. -/
theorem Fielded.filled_of_readField (h : Fielded shape fields) {key : List Piece} {name : String}
    (hkey : keyOf key = some name) {value : Phrase} {state middle : slots}
    (hread : shape.readField name value.node state = .ok middle) : ∀ g ∈ fields,
      Filled g.decode (g.get state) (valuesOf g.name [(key, value)]) (g.get middle) := by
  intro g hg
  by_cases hname : name ∈ fields.map RecordField.name
  · obtain ⟨f, hf, rfl⟩ := List.mem_map.mp hname
    rw [h.readField_of_mem hf] at hread
    obtain ⟨hempty, a, hvalue, rfl⟩ := fill_eq_ok_iff.mp hread
    -- only the slot of this field was touched
    by_cases hfg : f.name = g.name
    · obtain rfl := h.eq_of_name hf hg hfg
      rw [valuesOf_cons_of_key hkey, h.get_put f hf, hempty]
      exact .read hvalue
    · rw [valuesOf_cons_of_ne (by simpa [hkey] using hfg), h.get_put_ne f hf g hg hfg]
      exact .kept
  · rw [h.readField_other hname] at hread
    cases hread
    rw [valuesOf_cons_of_ne (by
      rw [hkey]
      rintro ⟨⟩
      exact hname (List.mem_map_of_mem hg))]
    exact .kept

/-- A member can be read if its slot is empty, and then the slots are as if it had been read. -/
theorem Fielded.exists_readField (h : Fielded shape fields) {key : List Piece} {name : String}
    (hkey : keyOf key = some name) {value : Phrase} {state state' : slots}
    (hslots : ∀ g ∈ fields, Filled g.decode (g.get state)
      (valuesOf g.name ((key, value) :: members)) (g.get state')) :
    ∃ middle, shape.readField name value.node state = .ok middle ∧ ∀ g ∈ fields,
      Filled g.decode (g.get middle) (valuesOf g.name members) (g.get state') := by
  by_cases hname : name ∈ fields.map RecordField.name
  · obtain ⟨f, hf, rfl⟩ := List.mem_map.mp hname
    have hslot := hslots f hf
    rw [valuesOf_cons_of_key hkey, filled_cons_iff] at hslot
    obtain ⟨hempty, hnone, a, hvalue, hfull⟩ := hslot
    refine ⟨f.put state (some a), ?_, ?_⟩
    · rw [h.readField_of_mem hf]
      exact fill_eq_ok_iff.mpr ⟨hempty, a, hvalue, rfl⟩
    · intro g hg
      by_cases hfg : f.name = g.name
      · obtain rfl := h.eq_of_name hf hg hfg
        rw [h.get_put f hf, hnone, filled_nil_iff]
        exact hfull
      · have hother := hslots g hg
        rw [valuesOf_cons_of_ne (by simpa [hkey] using hfg)] at hother
        rwa [h.get_put_ne f hf g hg hfg]
  · -- the key names no field, so its value is passed over
    refine ⟨state, h.readField_other hname value state, ?_⟩
    intro g hg
    have hother := hslots g hg
    rwa [valuesOf_cons_of_ne (by
      rw [hkey]
      rintro ⟨⟩
      exact hname (List.mem_map_of_mem hg))] at hother

/-- Reading members one after another fills each slot with what has its name. -/
theorem Fielded.readMembers_eq_ok_iff (h : Fielded shape fields) : ∀ {members : Members}
    {state state' : slots}, shape.readMembers state (Phrase.memberNodes members) = .ok state'
      ↔ (∀ m ∈ members, (keyOf m.1).isSome = true)
        ∧ ∀ f ∈ fields, Filled f.decode (f.get state) (valuesOf f.name members) (f.get state') := by
  intro members
  induction members with
  | nil =>
      intro state state'
      simp only [valuesOf_nil, filled_nil_iff]
      constructor
      · intro hread
        cases hread
        exact ⟨by simp, fun f _ => rfl⟩
      · rintro ⟨_, hslots⟩
        rw [h.ext state' state hslots]
        rfl
  | cons m members ih =>
      intro state state'
      obtain ⟨key, value⟩ := m
      rw [readMembers_cons_eq_ok_iff]
      constructor
      · rintro ⟨name, hkey, middle, hfield, hrest⟩
        obtain ⟨hnamed, hslots⟩ := ih.mp hrest
        refine ⟨List.forall_mem_cons.mpr ⟨by simp [hkey], hnamed⟩, ?_⟩
        intro f hf
        rw [← List.singleton_append, valuesOf_append]
        exact (h.filled_of_readField hkey hfield f hf).append (hslots f hf)
      · rintro ⟨hnamed, hslots⟩
        obtain ⟨hkey, hnamed⟩ := List.forall_mem_cons.mp hnamed
        obtain ⟨name, hkey⟩ := Option.isSome_iff_exists.mp hkey
        obtain ⟨middle, hfield, hrest⟩ := h.exists_readField hkey hslots
        exact ⟨name, hkey, middle, hfield, ih.mpr ⟨hnamed, hrest⟩⟩

/-! ## Objects and arrays -/

/-- The members that a value stands for where a record is read: those of an object, or the items of
an array under the names of the fields in their order. -/
def membersOf (shape : RecordShape slots) : Phrase → Option Members
  | .object members => some members
  | .array items =>
    if items.length ≤ shape.fields.length ∧ shape.required ≤ items.length then
      some ((shape.fields.map piecesOf).zip items)
    else none
  | _ => none

theorem readItems_nil_eq_ok_iff {keys : List String} {count : Nat} {state state' : slots} :
    shape.readItems none count state keys [] = .ok state'
      ↔ (0 < keys.length → shape.required ≤ count) ∧ state = state' := by
  cases keys with
  | nil =>
      rw [RecordShape.readItems]
      simp [checkBreak, bind, Except.bind, pure, Except.pure]
  | cons key keys =>
      rw [RecordShape.readItems]
      by_cases hcount : count < shape.required
      · simp [checkBreak, bind, Except.bind, hcount, throw, throwThe, MonadExceptOf.throw]
      · simp [checkBreak, bind, Except.bind, hcount, pure, Except.pure]
        omega

/-- Items are read as members with the names of the fields, up to the number of them. -/
theorem readItems_eq_ok_iff {items : List Phrase} {keys : List String} {count : Nat}
    {state state' : slots} :
    shape.readItems none count state keys (Phrase.nodes items) = .ok state'
      ↔ items.length ≤ keys.length
        ∧ (items.length < keys.length → shape.required ≤ count + items.length)
        ∧ shape.readMembers state (Phrase.memberNodes ((keys.map piecesOf).zip items))
          = .ok state' := by
  induction items generalizing keys count state with
  | nil =>
      rw [Phrase.nodes, readItems_nil_eq_ok_iff, List.zip_nil_right]
      simp [Phrase.memberNodes, RecordShape.readMembers]
  | cons item items ih =>
      cases keys with
      | nil => simp [Phrase.nodes, RecordShape.readItems]
      | cons key keys =>
          rw [Phrase.nodes, RecordShape.readItems, List.map_cons, List.zip_cons_cons,
            readMembers_cons_eq_ok_iff]
          simp only [keyOf_piecesOf, Option.some.injEq, exists_eq_left', List.length_cons,
            Nat.add_le_add_iff_right, Nat.add_lt_add_iff_right]
          constructor
          · intro hread
            obtain ⟨middle, hitem, hrest⟩ := ok_of_bind hread
            obtain ⟨hle, hlt, hmembers⟩ := ih.mp hrest
            refine ⟨hle, ?_, middle, hitem, hmembers⟩
            intro hshort
            have hcount := hlt hshort
            omega
          · rintro ⟨hle, hlt, middle, hitem, hmembers⟩
            rw [hitem]
            refine ih.mpr ⟨hle, ?_, hmembers⟩
            intro hshort
            have hcount := hlt hshort
            omega

theorem Fielded.readMembers_empty (h : Fielded shape fields) {state : slots} :
    shape.readMembers shape.empty (Phrase.memberNodes members) = .ok state
      ↔ ReadAs fields members state := by
  rw [h.readMembers_eq_ok_iff]
  constructor
  · rintro ⟨hnamed, hslots⟩
    exact ⟨hnamed, fun f hf => h.get_empty f hf ▸ hslots f hf⟩
  · rintro ⟨hnamed, hslots⟩
    exact ⟨hnamed, fun f hf => (h.get_empty f hf).symm ▸ hslots f hf⟩

/-- **What a record is read as**: the members that it stands for say so. -/
theorem Fielded.decode_eq_ok_iff (h : Fielded shape fields) (finish : slots → Decoded α)
    (p : Phrase) (a : α) : shape.decode finish p.node = .ok a
      ↔ ∃ members, membersOf shape p = some members
        ∧ ∃ state, ReadAs fields members state ∧ finish state = .ok a := by
  cases p with
  | object members =>
      rw [Phrase.node, RecordShape.decode]
      simp only [membersOf, Option.some.injEq, exists_eq_left', ← h.readMembers_empty]
      constructor
      · intro hread
        obtain ⟨state, hmembers, hrest⟩ := ok_of_bind hread
        exact ⟨state, hmembers, hrest⟩
      · rintro ⟨state, hmembers, hfinish⟩
        rw [hmembers]
        exact hfinish
  | array items =>
      have hrequired : shape.required ≤ shape.fields.length := by
        rw [h.names, List.length_map]
        exact h.required
      have hitems : ∀ state, shape.readItems none 0 shape.empty shape.fields (Phrase.nodes items)
          = .ok state ↔ (items.length ≤ shape.fields.length ∧ shape.required ≤ items.length)
            ∧ ReadAs fields ((shape.fields.map piecesOf).zip items) state := by
        intro state
        rw [readItems_eq_ok_iff, h.readMembers_empty, Nat.zero_add, ← and_assoc]
        -- a full array has items for all fields, so it has them for those that are required
        refine and_congr_left fun _ => and_congr_right fun _ => ⟨fun hshort => ?_, fun hle _ => hle⟩
        by_cases hlt : items.length < shape.fields.length
        · exact hshort hlt
        · omega
      rw [Phrase.node, RecordShape.decode]
      constructor
      · intro hread
        obtain ⟨state, hstate, hfinish⟩ := ok_of_bind hread
        obtain ⟨hlength, hslots⟩ := (hitems state).mp hstate
        exact ⟨_, if_pos hlength, state, hslots, hfinish⟩
      · rintro ⟨members, hmembers, state, hslots, hfinish⟩
        rw [membersOf, Option.ite_none_right_eq_some] at hmembers
        obtain ⟨hlength, hmembers⟩ := hmembers
        cases hmembers
        rw [(hitems state).mpr ⟨hlength, hslots⟩]
        exact hfinish
  | _ =>
      have hmismatch := mismatch_ne_ok (α := α) (.record shape.name)
      simp [Phrase.node, RecordShape.decode, membersOf, hmismatch]

/-! ## Changing members -/

theorem ReadAs.perm {members' : Members} {state : slots} (h : ReadAs fields members state)
    (hperm : members.Perm members') : ReadAs fields members' state where
  named := fun m hm => h.named m (hperm.mem_iff.mpr hm)
  filled := fun f hf => (h.filled f hf).perm (valuesOf_perm hperm f.name)

/-- It makes no difference where a member stands. -/
theorem readAs_middle_iff {before after : Members} {m : List Piece × Phrase} {state : slots} :
    ReadAs fields (before ++ m :: after) state ↔ ReadAs fields (m :: (before ++ after)) state :=
  ⟨fun h => h.perm List.perm_middle, fun h => h.perm List.perm_middle.symm⟩

theorem ReadAs.unique (hfields : Fielded shape fields) {state state' : slots}
    (h : ReadAs fields members state) (h' : ReadAs fields members state') : state = state' :=
  hfields.ext state state' fun f hf => (h.filled f hf).unique (h'.filled f hf)

/-- A member that names no field says nothing. -/
theorem readAs_cons_other_iff {key : List Piece} {name : String} (hkey : keyOf key = some name)
    (hname : name ∉ fields.map RecordField.name) {value : Phrase} {state : slots} :
    ReadAs fields ((key, value) :: members) state ↔ ReadAs fields members state := by
  have hvalues : ∀ f ∈ fields,
      valuesOf f.name ((key, value) :: members) = valuesOf f.name members := by
    intro f hf
    apply valuesOf_cons_of_ne
    rw [hkey]
    rintro ⟨⟩
    exact hname (List.mem_map_of_mem hf)
  constructor
  · rintro ⟨hnamed, hfilled⟩
    exact ⟨(List.forall_mem_cons.mp hnamed).2, fun f hf => hvalues f hf ▸ hfilled f hf⟩
  · rintro ⟨hnamed, hfilled⟩
    exact ⟨List.forall_mem_cons.mpr ⟨by simp [hkey], hnamed⟩,
      fun f hf => (hvalues f hf).symm ▸ hfilled f hf⟩

/-- A member that names a field says what is in its slot, and no other member does. -/
theorem Fielded.readAs_cons_iff (h : Fielded shape fields) {f : RecordField slots} (hf : f ∈ fields)
    {key : List Piece} (hkey : keyOf key = some f.name) {value : Phrase} {state : slots} :
    ReadAs fields ((key, value) :: members) state
      ↔ ReadAs fields members (f.put state none)
        ∧ ∃ a, f.decode value.node = .ok a ∧ f.get state = some a := by
  have hother : ∀ g ∈ fields, f.name ≠ g.name →
      valuesOf g.name ((key, value) :: members) = valuesOf g.name members
        ∧ g.get (f.put state none) = g.get state := fun g hg hne =>
    ⟨valuesOf_cons_of_ne (by simpa [hkey] using hne) value members, h.get_put_ne f hf g hg hne _ _⟩
  constructor
  · rintro ⟨hnamed, hfilled⟩
    have hslot := hfilled f hf
    rw [valuesOf_cons_of_key hkey, filled_cons_iff] at hslot
    obtain ⟨_, hnone, hvalue⟩ := hslot
    refine ⟨⟨(List.forall_mem_cons.mp hnamed).2, ?_⟩, hvalue⟩
    intro g hg
    by_cases hfg : f.name = g.name
    · obtain rfl := h.eq_of_name hf hg hfg
      rw [hnone, h.get_put f hf]
      exact .kept
    · rw [← (hother g hg hfg).1, (hother g hg hfg).2]
      exact hfilled g hg
  · rintro ⟨⟨hnamed, hfilled⟩, a, hvalue, hslot⟩
    refine ⟨List.forall_mem_cons.mpr ⟨by simp [hkey], hnamed⟩, ?_⟩
    intro g hg
    by_cases hfg : f.name = g.name
    · obtain rfl := h.eq_of_name hf hg hfg
      have hempty := hfilled f hf
      rw [h.get_put f hf] at hempty
      rw [valuesOf_cons_of_key hkey, hslot, filled_cons_iff]
      refine ⟨rfl, ?_, a, hvalue, rfl⟩
      -- what has left the slot empty were no values
      generalize valuesOf f.name members = ps at hempty
      cases hempty
      rfl
    · rw [(hother g hg hfg).1, ← (hother g hg hfg).2]
      exact hfilled g hg

/-- With another value for a field the same is read but for the slot of this field. -/
theorem Fielded.readAs_cons_of_readAs (h : Fielded shape fields) {f : RecordField slots}
    (hf : f ∈ fields) {key : List Piece} (hkey : keyOf key = some f.name) {value value' : Phrase}
    {state state' : slots} (hread : ReadAs fields ((key, value) :: members) state) :
    ReadAs fields ((key, value') :: members) state'
      ↔ ∃ a, f.decode value'.node = .ok a ∧ state' = f.put state (some a) := by
  obtain ⟨hrest, _⟩ := (h.readAs_cons_iff hf hkey).mp hread
  rw [h.readAs_cons_iff hf hkey]
  constructor
  · rintro ⟨hrest', a, hvalue, hslot⟩
    -- the other members are the same, so they have filled the other slots alike
    refine ⟨a, hvalue, h.ext _ _ ?_⟩
    intro g hg
    by_cases hfg : f.name = g.name
    · obtain rfl := h.eq_of_name hf hg hfg
      rw [h.get_put f hf, hslot]
    · have hsame := congrArg g.get (hrest'.unique h hrest)
      rwa [h.get_put_ne f hf g hg hfg, h.get_put_ne f hf g hg hfg,
        ← h.get_put_ne f hf g hg hfg state (some a)] at hsame
  · rintro ⟨a, hvalue, rfl⟩
    refine ⟨?_, a, hvalue, h.get_put f hf _ _⟩
    have hsame : f.put (f.put state (some a)) none = f.put state none := by
      apply h.ext
      intro g hg
      by_cases hfg : f.name = g.name
      · obtain rfl := h.eq_of_name hf hg hfg
        rw [h.get_put f hf, h.get_put f hf]
      · rw [h.get_put_ne f hf g hg hfg, h.get_put_ne f hf g hg hfg, h.get_put_ne f hf g hg hfg]
    rwa [hsame]

/-! ## A record with a gap -/

/-- A record in which the value of a field is left open. -/
inductive RecordGap (names : List String) (name : String) where
  /-- An object with the key of the field among its members. -/
  | member (before : Members) (key : List Piece) (after : Members) (hkey : keyOf key = some name)
  /-- An array with as many items in front as there are fields before this one. -/
  | item (before after : List Phrase) (hplace : names[before.length]? = some name)

/-- The record with a value in its gap. -/
def RecordGap.fill {names : List String} {name : String} :
    RecordGap names name → Phrase → Phrase
  | .member before key after _, value => .object (before ++ (key, value) :: after)
  | .item before after _, value => .array (before ++ value :: after)

/-- The value in the gap is one of the members, or the record is none whatever the value is. -/
theorem membersOf_fill {name : String} (gap : RecordGap shape.fields name) :
    (∃ before key after, keyOf key = some name
        ∧ ∀ p, membersOf shape (gap.fill p) = some (before ++ (key, p) :: after))
      ∨ ∀ p, membersOf shape (gap.fill p) = none := by
  cases gap with
  | member before key after hkey => exact .inl ⟨before, key, after, hkey, fun _ => rfl⟩
  | item before after hplace =>
      -- the names are cut at the place of the gap, as the items are
      obtain ⟨hlt, hname⟩ := List.getElem?_eq_some_iff.mp hplace
      have hnames : shape.fields.map piecesOf = (shape.fields.take before.length).map piecesOf
          ++ piecesOf name :: (shape.fields.drop (before.length + 1)).map piecesOf := by
        rw [← List.map_cons, ← List.map_append, ← hname, List.getElem_cons_drop,
          List.take_append_drop]
      have hlength : ((shape.fields.take before.length).map piecesOf).length = before.length := by
        rw [List.length_map, List.length_take, Nat.min_eq_left (Nat.le_of_lt hlt)]
      have hzip : ∀ p, (shape.fields.map piecesOf).zip (before ++ p :: after)
          = ((shape.fields.take before.length).map piecesOf).zip before
            ++ (piecesOf name, p)
              :: ((shape.fields.drop (before.length + 1)).map piecesOf).zip after := by
        intro p
        rw [hnames, List.zip_append hlength, List.zip_cons_cons]
      simp only [RecordGap.fill, membersOf, hzip, List.length_append, List.length_cons]
      by_cases hfits : before.length + (after.length + 1) ≤ shape.fields.length
          ∧ shape.required ≤ before.length + (after.length + 1)
      · exact .inl ⟨_, _, _, keyOf_piecesOf name, fun p => if_pos hfits⟩
      · exact .inr fun p => if_neg hfits

/-- If a record with a gap is read with one value, then every value that is decoded for its field
is as good, and what is read differs only in the slot of this field. -/
theorem Fielded.decode_fill_iff (h : Fielded shape fields) {f : RecordField slots} (hf : f ∈ fields)
    (gap : RecordGap shape.fields f.name) (finish : slots → Decoded α) {p₀ : Phrase} {a₀ : α}
    (h₀ : shape.decode finish (gap.fill p₀).node = .ok a₀) :
    ∃ state, ∀ p a, shape.decode finish (gap.fill p).node = .ok a
      ↔ ∃ b, f.decode p.node = .ok b ∧ finish (f.put state (some b)) = .ok a := by
  rcases membersOf_fill gap with ⟨before, key, after, hkey, hmembers⟩ | hnone
  · have hiff : ∀ p a, shape.decode finish (gap.fill p).node = .ok a ↔ ∃ state,
        ReadAs fields ((key, p) :: (before ++ after)) state ∧ finish state = .ok a := by
      intro p a
      rw [h.decode_eq_ok_iff, hmembers]
      simp only [Option.some.injEq, exists_eq_left', readAs_middle_iff]
    obtain ⟨state, hread, _⟩ := (hiff p₀ a₀).mp h₀
    refine ⟨state, ?_⟩
    intro p a
    rw [hiff]
    constructor
    · rintro ⟨state', hread', hfinish⟩
      obtain ⟨b, hb, rfl⟩ := (h.readAs_cons_of_readAs hf hkey hread).mp hread'
      exact ⟨b, hb, hfinish⟩
    · rintro ⟨b, hb, hfinish⟩
      exact ⟨_, (h.readAs_cons_of_readAs hf hkey hread).mpr ⟨b, hb, rfl⟩, hfinish⟩
  · obtain ⟨members, hmembers, _⟩ := (h.decode_eq_ok_iff finish _ _).mp h₀
    rw [hnone] at hmembers
    cases hmembers

end

end PadMapping.Proofs
