import PadMapping.Proofs.Export.Members

/-!
# An export with a gap

What stands at one place of an export can be said apart from the rest: with a mapping or a control
left open, an export is read as what the gap holds, in its place between what the rest says. The
rest does not depend on what is in the gap, and nothing in it makes up for a gap that cannot be
read.

There are two ways from the gap to the whole. A value of a field is in its record, in an object
behind a key or in an array at its place, and an item is in its list. The two are put together here
from the mapping to the export and from the control to the mapping.
-/

namespace PadMapping.Proofs

open Json

/-! ## Lists -/

section

variable {α : Type} {decode : Node → Decoded α}

theorem nodes_append (items items' : List Phrase) :
    Phrase.nodes (items ++ items') = Phrase.nodes items ++ Phrase.nodes items' := by
  induction items with
  | nil => rfl
  | cons item items ih => rw [List.cons_append, Phrase.nodes, ih, Phrase.nodes, List.cons_append]

theorem length_nodes (items : List Phrase) : (Phrase.nodes items).length = items.length := by
  induction items with
  | nil => rfl
  | cons item items ih => rw [Phrase.nodes, List.length_cons, ih, List.length_cons]

theorem asList_array_eq_ok_iff {items : List Phrase} {as : List α} :
    (Phrase.array items).node.asList decode = .ok as
      ↔ (Phrase.nodes items).mapM decode = .ok as := by
  rw [Phrase.node, Node.asList]
  cases (Phrase.nodes items).mapM decode with
  | error e => simp [bind, Except.bind]
  | ok as' => simp [checkBreak, bind, Except.bind, pure, Except.pure]

/-- The items in front of a gap are read on their own. -/
theorem mapM_middle {nodes rest : List Node} {as : List α}
    (h : (nodes ++ rest).mapM decode = .ok as) : ∃ front, front.length = nodes.length
      ∧ ∀ rest' as', (nodes ++ rest').mapM decode = .ok as'
        ↔ ∃ back, rest'.mapM decode = .ok back ∧ as' = front ++ back := by
  -- on the items in front, which are the same whatever comes behind them
  induction nodes generalizing as with
  | nil => exact ⟨[], rfl, by simp⟩
  | cons node nodes ih =>
      rw [List.cons_append, mapM_cons_eq_ok_iff] at h
      obtain ⟨a, as, hnode, hnodes, _⟩ := h
      obtain ⟨front, hlength, hfront⟩ := ih hnodes
      refine ⟨a :: front, by rw [List.length_cons, hlength, List.length_cons], ?_⟩
      intro rest' as'
      rw [List.cons_append, mapM_cons_eq_ok_iff, hnode]
      constructor
      · rintro ⟨_, _, ha, hrest, rfl⟩
        cases ha
        obtain ⟨back, hback, rfl⟩ := (hfront rest' _).mp hrest
        exact ⟨back, hback, rfl⟩
      · rintro ⟨back, hback, rfl⟩
        exact ⟨a, front ++ back, rfl, (hfront rest' _).mpr ⟨back, hback, rfl⟩, rfl⟩

/-- If a list with a gap is read with one item, then every item that can be decoded is as good. -/
theorem asList_fill_iff {before after : List Phrase} {p₀ : Phrase} {as₀ : List α}
    (h₀ : (Phrase.array (before ++ p₀ :: after)).node.asList decode = .ok as₀) :
    ∃ front back, front.length = before.length
      ∧ ∀ p as, (Phrase.array (before ++ p :: after)).node.asList decode = .ok as
        ↔ ∃ a, decode p.node = .ok a ∧ as = front ++ a :: back := by
  simp only [asList_array_eq_ok_iff, nodes_append, Phrase.nodes] at h₀ ⊢
  obtain ⟨front, hlength, hfront⟩ := mapM_middle h₀
  obtain ⟨_, hrest, _⟩ := (hfront _ _).mp h₀
  obtain ⟨_, back, _, hback, _⟩ := mapM_cons_eq_ok_iff.mp hrest
  refine ⟨front, back, by rw [hlength, length_nodes], ?_⟩
  intro p as
  rw [hfront]
  constructor
  · rintro ⟨_, hitems, rfl⟩
    obtain ⟨a, back', ha, hback', rfl⟩ := mapM_cons_eq_ok_iff.mp hitems
    rw [hback] at hback'
    cases hback'
    exact ⟨a, ha, rfl⟩
  · rintro ⟨a, ha, rfl⟩
    exact ⟨a :: back, mapM_cons_eq_ok_iff.mpr ⟨a, back, ha, hback, rfl⟩, rfl⟩

end

/-! ## Mappings -/

/-- An export in which one of the mappings is left open. -/
structure MappingGap where
  exported : RecordGap Export.shape.fields "mappings"
  /-- The mappings in front of it. -/
  before : List Phrase
  /-- The mappings behind it. -/
  after : List Phrase

namespace MappingGap

/-- The export with a mapping in its gap. -/
def fill (gap : MappingGap) (p : Phrase) : Phrase :=
  gap.exported.fill (.array (gap.before ++ p :: gap.after))

/-- The number of the mapping that is left open. -/
def index (gap : MappingGap) : Nat := gap.before.length

/-- **An export is read as its mapping, in its place.** -/
theorem decode_fill_iff (gap : MappingGap) {p₀ : Phrase} {e₀ : Export}
    (h₀ : Export.decode (gap.fill p₀).node = .ok e₀) :
    ∃ deviceId front back, front.length = gap.index
      ∧ ∀ p e, Export.decode (gap.fill p).node = .ok e
        ↔ ∃ a, Assignment.decode p.node = .ok a ∧ e = ⟨deviceId, front ++ a :: back⟩ := by
  have hmember : mappingsField ∈ exportFields := List.mem_cons_of_mem _ List.mem_cons_self
  obtain ⟨slots, hslots⟩ := fielded_export.decode_fill_iff hmember gap.exported _ h₀
  obtain ⟨as₀, hlist, hfinish⟩ := (hslots _ _).mp h₀
  obtain ⟨front, back, hlength, hitems⟩ := asList_fill_iff hlist
  -- the export was complete, so its id has been read
  obtain ⟨deviceId, hid⟩ : ∃ deviceId, slots.deviceId = some deviceId := by
    obtain ⟨deviceId, hrequire, _⟩ := ok_of_bind hfinish
    cases hid : slots.deviceId with
    | none => simp [mappingsField, hid, Slot.require] at hrequire
    | some deviceId => exact ⟨deviceId, rfl⟩
  -- with the id in its slot, a list of mappings makes the export complete
  have hexport : ∀ as e, (mappingsField.put slots (some as)).toExport = .ok e
      ↔ e = ⟨deviceId, as⟩ := by
    intro as e
    rw [eq_comm (a := e)]
    simp [Export.Slots.toExport, mappingsField, hid, Slot.require, bind, Except.bind, pure,
      Except.pure]
  refine ⟨deviceId, front, back, hlength, ?_⟩
  intro p e
  refine (hslots _ e).trans ?_
  constructor
  · rintro ⟨as, has, he⟩
    obtain ⟨a, ha, rfl⟩ := (hitems p as).mp has
    exact ⟨a, ha, (hexport _ e).mp he⟩
  · rintro ⟨a, ha, he⟩
    exact ⟨_, (hitems p _).mpr ⟨a, ha, rfl⟩, (hexport _ e).mpr he⟩

end MappingGap

/-! ## Controls -/

/-- An export in which the control of one of the mappings is left open. -/
structure ControlGap where
  mapping : MappingGap
  assignment : RecordGap Assignment.shape.fields "mapsTo"

namespace ControlGap

/-- The export with a control in its gap. -/
def fill (gap : ControlGap) (p : Phrase) : Phrase := gap.mapping.fill (gap.assignment.fill p)

/-- The number of the mapping whose control is left open. -/
def index (gap : ControlGap) : Nat := gap.mapping.index

/-- A mapping is read as its step, with what its control is read as. -/
theorem decode_assignment_iff (gap : ControlGap) {p₀ : Phrase} {a₀ : Assignment}
    (h₀ : Assignment.decode (gap.assignment.fill p₀).node = .ok a₀) :
    ∃ step, ∀ p a, Assignment.decode (gap.assignment.fill p).node = .ok a
      ↔ ∃ control, Control.decode? p.node = .ok control ∧ a = ⟨step, control⟩ := by
  have hmember : mapsToField ∈ assignmentFields := by simp [assignmentFields]
  obtain ⟨slots, hslots⟩ := fielded_assignment.decode_fill_iff hmember gap.assignment _ h₀
  obtain ⟨control₀, _, hfinish⟩ := (hslots _ _).mp h₀
  -- with one control the step is complete, so it is with any other
  have hstep : ∀ control, (mapsToField.put slots (some control)).assignment
      = .ok ⟨a₀.step, control⟩ := by
    obtain ⟨name, target, index, result⟩ := slots
    obtain ⟨name', hname, hfinish⟩ := ok_of_bind hfinish
    obtain ⟨target', htarget, hfinish⟩ := ok_of_bind hfinish
    obtain ⟨index', hindex, hfinish⟩ := ok_of_bind hfinish
    cases hfinish
    intro control
    rw [Assignment.Slots.assignment]
    simp only [mapsToField] at hname htarget hindex ⊢
    rw [hname, htarget, hindex]
    rfl
  refine ⟨a₀.step, ?_⟩
  intro p a
  refine (hslots p a).trans ?_
  constructor
  · rintro ⟨control, hcontrol, ha⟩
    rw [hstep] at ha
    cases ha
    exact ⟨control, hcontrol, rfl⟩
  · rintro ⟨control, hcontrol, rfl⟩
    exact ⟨control, hcontrol, hstep control⟩

/-- **An export is read as its control, in its place.** -/
theorem decode_fill_iff (gap : ControlGap) {p₀ : Phrase} {e₀ : Export}
    (h₀ : Export.decode (gap.fill p₀).node = .ok e₀) :
    ∃ deviceId front step back, front.length = gap.index
      ∧ ∀ p e, Export.decode (gap.fill p).node = .ok e
        ↔ ∃ control, Control.decode? p.node = .ok control
          ∧ e = ⟨deviceId, front ++ ⟨step, control⟩ :: back⟩ := by
  obtain ⟨deviceId, front, back, hlength, hmapping⟩ := gap.mapping.decode_fill_iff h₀
  obtain ⟨a₀, ha₀, _⟩ := (hmapping _ _).mp h₀
  obtain ⟨step, hcontrol⟩ := gap.decode_assignment_iff ha₀
  refine ⟨deviceId, front, step, back, hlength, ?_⟩
  intro p e
  refine (hmapping _ e).trans ?_
  constructor
  · rintro ⟨a, ha, rfl⟩
    obtain ⟨control, hread, rfl⟩ := (hcontrol p a).mp ha
    exact ⟨control, hread, rfl⟩
  · rintro ⟨control, hread, rfl⟩
    exact ⟨_, (hcontrol p _).mpr ⟨control, hread, rfl⟩, rfl⟩

end ControlGap

end PadMapping.Proofs
