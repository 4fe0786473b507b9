import PadMapping.Proofs.Export.Gaps
import PadMapping.Proofs.Export.Store

/-!
# A control on its own and in an export

A control is read in two places: on its own, where it has to be there, and in an export, where a
mapping may be left without one. Both go through `Control.decode?`, so what is read on its own is
what stands in the export. They part only where a control gives neither a button nor an axis:
`decode?_eq_none_iff` says which values these are.
-/

namespace PadMapping.Proofs

open Json

/-! ## Left open, and given twice -/

/-- A field is left out or null. -/
def LeftOut (name : String) (members : Members) : Prop :=
  valuesOf name members = [] ∨ valuesOf name members = [.null]

/-- A field has a value that is not null. -/
def Given (name : String) (members : Members) : Prop := ∃ p ∈ valuesOf name members, p ≠ .null

/-- A control in good form that gives neither a button nor an axis. -/
def LeftOpen (p : Phrase) : Prop :=
  ∃ members, membersOf Control.shape p = some members
    ∧ (∀ m ∈ members, (keyOf m.1).isSome = true) ∧ LeftOut "button" members ∧ LeftOut "axis" members

/-- A control that gives both a button and an axis, in whatever order, and right or wrong. -/
def GivesBoth (p : Phrase) : Prop :=
  ∃ members, membersOf Control.shape p = some members
    ∧ Given "button" members ∧ Given "axis" members

section

variable {α : Type} {decode : Node → Decoded α} {ps : List Phrase} {slot : Slot (Option α)}

theorem orNull_of_ne_null {p : Phrase} (h : p ≠ .null) :
    p.node.orNull decode = some <$> decode p.node := by
  cases p with
  | null => exact absurd rfl h
  | _ =>
      simp only [Phrase.node]
      rfl

theorem ne_none_of_orNull {p : Phrase} (h : p ≠ .null) : p.node.orNull decode ≠ .ok none := by
  rw [orNull_of_ne_null h]
  cases decode p.node with
  | error e => exact fun hread => by cases hread
  | ok a => exact fun hread => by cases hread

/-- A slot has nothing in it if its field is left out or null, and only then. -/
theorem Filled.join_eq_none_iff (h : Filled (Node.orNull decode) none ps slot) :
    slot.join = none ↔ ps = [] ∨ ps = [.null] := by
  cases h with
  | kept => simp
  | @read p value hread =>
      -- a null is read as nothing, and anything else as something
      by_cases hp : p = .null
      · subst hp
        cases hread
        simp
      · cases value with
        | none => exact absurd hread (ne_none_of_orNull hp)
        | some a => simp [hp]

theorem filled_of_leftOut (decode : Node → Decoded α) {name : String} {members : Members}
    (h : LeftOut name members) :
    ∃ slot, Filled (Node.orNull decode) none (valuesOf name members) slot := by
  rcases h with hnone | hnull
  · exact ⟨none, hnone ▸ .kept⟩
  · exact ⟨some none, hnull ▸ .read rfl⟩

theorem not_leftOut_of_given {name : String} {members : Members} (h : Given name members) :
    ¬ LeftOut name members := by
  obtain ⟨p, hp, hnull⟩ := h
  rintro (hvalues | hvalues)
  · rw [hvalues] at hp
    cases hp
  · rw [hvalues] at hp
    exact hnull (List.mem_singleton.mp hp)

end

/-! ## What a control is read as -/

theorem control?_eq_none_iff {slots : Control.Slots} :
    slots.control? = .ok none ↔ slots.button.join = none ∧ slots.axis.join = none := by
  unfold Control.Slots.control?
  split
  · simp_all
  · simp_all
  · rename_i label hbutton haxis
    cases Control.ofLabel label <;> simp_all
  · simp_all

theorem control?_of_both {slots : Control.Slots} (hbutton : slots.button.join ≠ none)
    (haxis : slots.axis.join ≠ none) : slots.control? = .error .bothKinds := by
  obtain ⟨index, hindex⟩ := Option.ne_none_iff_exists'.mp hbutton
  obtain ⟨label, hlabel⟩ := Option.ne_none_iff_exists'.mp haxis
  rw [Control.Slots.control?, hindex, hlabel]

theorem mem_buttonField : buttonField ∈ controlFields := List.mem_cons_self

theorem mem_axisField : axisField ∈ controlFields := List.mem_cons_of_mem _ List.mem_cons_self

/-- **No control is read where none is given**, and nowhere else. -/
theorem decode?_eq_none_iff {p : Phrase} : Control.decode? p.node = .ok none ↔ LeftOpen p := by
  rw [Control.decode?, fielded_control.decode_eq_ok_iff]
  constructor
  · rintro ⟨members, hmembers, slots, hread, hnone⟩
    obtain ⟨hbutton, haxis⟩ := control?_eq_none_iff.mp hnone
    exact ⟨members, hmembers, hread.named,
      (hread.filled _ mem_buttonField).join_eq_none_iff.mp hbutton,
      (hread.filled _ mem_axisField).join_eq_none_iff.mp haxis⟩
  · rintro ⟨members, hmembers, hnamed, hbutton, haxis⟩
    obtain ⟨button, hb⟩ := filled_of_leftOut Node.asIndex hbutton
    obtain ⟨axis, ha⟩ := filled_of_leftOut Node.asText haxis
    refine ⟨members, hmembers, ⟨button, axis⟩, ⟨hnamed, ?_⟩, ?_⟩
    · exact List.forall_mem_cons.mpr ⟨hb, List.forall_mem_singleton.mpr ha⟩
    · exact control?_eq_none_iff.mpr
        ⟨hb.join_eq_none_iff.mpr hbutton, ha.join_eq_none_iff.mpr haxis⟩

/-- A button and an axis together are no control. -/
theorem decode?_of_givesBoth {p : Phrase} (h : GivesBoth p) (control : Option Control) :
    Control.decode? p.node ≠ .ok control := by
  obtain ⟨members, hmembers, hbutton, haxis⟩ := h
  rw [Control.decode?, Ne, fielded_control.decode_eq_ok_iff, hmembers]
  rintro ⟨_, ⟨⟩, slots, hread, hcontrol⟩
  have hb := (hread.filled _ mem_buttonField).join_eq_none_iff
  have ha := (hread.filled _ mem_axisField).join_eq_none_iff
  rw [control?_of_both (hb.not.mpr (not_leftOut_of_given hbutton))
    (ha.not.mpr (not_leftOut_of_given haxis))] at hcontrol
  cases hcontrol

theorem control_eq_ok_iff {node : Node} {control : Control} :
    Control.decode node = .ok control ↔ Control.decode? node = .ok (some control) := by
  rw [Control.decode]
  cases Control.decode? node with
  | error e => simp [bind, Except.bind]
  | ok control? =>
      cases control? with
      | none => simp [bind, Except.bind, throw, throwThe, MonadExceptOf.throw]
      | some control' => simp [bind, Except.bind, pure, Except.pure]

theorem control_of_none {node : Node} (h : Control.decode? node = .ok none) :
    Control.decode node = .error .neitherKind := by
  rw [Control.decode, h]
  rfl

/-! ## In an export -/

/-- The text of an export can be loaded, and the mapping with the given number has this control. -/
def LoadsWith (text : String) (index : Nat) (control : Option Control) : Prop :=
  ∃ e, Export.ofBytes text.toUTF8 = .ok e
    ∧ ∃ a, e.assignments[index]? = some a ∧ a.control = control

/-- The text of an export cannot be loaded. -/
def FailsToLoad (text : String) : Prop :=
  ∃ problem, Export.ofBytes text.toUTF8 = .error (.json problem)

theorem failsToLoad_iff {text : String} : FailsToLoad text ↔ ∀ e, Export.parse text ≠ .ok e := by
  rw [FailsToLoad, ofBytes_toUTF8]
  cases Export.parse text <;> simp [Except.mapError]

/-- In an export that can be read with some control, any other is read as it is on its own. -/
theorem loadsWith_iff {gap : ControlGap} {p₀ p : Phrase} {t₀ t : String} {e₀ : Export}
    (ht₀ : Written (gap.fill p₀).tokens t₀.toList) (h₀ : Export.ofBytes t₀.toUTF8 = .ok e₀)
    (ht : Written (gap.fill p).tokens t.toList) :
    (∀ control, LoadsWith t gap.index control ↔ Control.decode? p.node = .ok control)
      ∧ (FailsToLoad t ↔ ∀ control, Control.decode? p.node ≠ .ok control) := by
  rw [ofBytes_eq_ok_iff, Export.parse, decodeDocument_of_written ht₀] at h₀
  obtain ⟨deviceId, front, step, back, hlength, hfill⟩ := gap.decode_fill_iff h₀
  have hload : ∀ e, Export.parse t = .ok e ↔ ∃ control, Control.decode? p.node = .ok control
      ∧ e = ⟨deviceId, front ++ ⟨step, control⟩ :: back⟩ := by
    intro e
    rw [Export.parse, decodeDocument_of_written ht]
    exact hfill p e
  constructor
  · intro control
    simp only [LoadsWith, ofBytes_eq_ok_iff, hload, ← hlength]
    constructor
    · rintro ⟨_, ⟨control', hread, rfl⟩, a, ha, rfl⟩
      -- the mapping with this number is the one with the gap
      rw [List.getElem?_append_right (Nat.le_refl _), Nat.sub_self] at ha
      cases ha
      exact hread
    · intro hread
      refine ⟨_, ⟨control, hread, rfl⟩, ⟨step, control⟩, ?_, rfl⟩
      rw [List.getElem?_append_right (Nat.le_refl _), Nat.sub_self]
      rfl
  · rw [failsToLoad_iff]
    constructor
    · intro hfail control hread
      exact hfail _ ((hload _).mpr ⟨control, hread, rfl⟩)
    · intro hnone e he
      obtain ⟨control, hread, _⟩ := (hload e).mp he
      exact hnone control hread

/--
**A control is read in an export as it is read on its own.**

Let `c` be the text of any value, and `t` that of an export with this value for the result of a
mapping, which could be loaded if another value stood there. What is read from `c` is what the
mapping has after loading. It has no control where the value gives neither a button nor an axis, and
then reading `c` says so. In all other cases neither can be read, among them all where both a button
and an axis are given.
-/
theorem control_decoders_agree {gap : ControlGap} {p₀ p : Phrase} {t₀ t c : String} {e₀ : Export}
    (ht₀ : Written (gap.fill p₀).tokens t₀.toList) (h₀ : Export.ofBytes t₀.toUTF8 = .ok e₀)
    (hc : Written p.tokens c.toList) (ht : Written (gap.fill p).tokens t.toList) :
    (∀ control, Control.parse c = .ok control ↔ LoadsWith t gap.index (some control))
      ∧ (LoadsWith t gap.index none ↔ LeftOpen p)
      ∧ (LeftOpen p → ∃ problem, Control.parse c = .error problem
          ∧ problem.message? = some "expected 'button' or 'axis'")
      ∧ (¬ LeftOpen p → (∀ control, Control.parse c ≠ .ok control) →
          (∃ problem, Control.parse c = .error problem) ∧ FailsToLoad t)
      ∧ (GivesBoth p → (∃ problem, Control.parse c = .error problem) ∧ FailsToLoad t) := by
  obtain ⟨hloads, hfails⟩ := loadsWith_iff ht₀ h₀ ht
  have hparse : Control.parse c = Control.decode p.node := decodeDocument_of_written hc
  have herror : (∀ control, Control.parse c ≠ .ok control) →
      ∃ problem, Control.parse c = .error problem := by
    intro hnone
    cases hread : Control.parse c with
    | error problem => exact ⟨problem, rfl⟩
    | ok control => exact absurd hread (hnone control)
  refine ⟨?_, ?_, ?_, ?_, ?_⟩
  · intro control
    rw [hparse, control_eq_ok_iff, hloads]
  · rw [hloads, decode?_eq_none_iff]
  · intro hopen
    refine ⟨.neitherKind, ?_, rfl⟩
    rw [hparse, control_of_none (decode?_eq_none_iff.mpr hopen)]
  · intro hopen hnone
    refine ⟨herror hnone, hfails.mpr ?_⟩
    rintro (_ | control) hread
    · exact hopen (decode?_eq_none_iff.mp hread)
    · exact hnone control (hparse.trans (control_eq_ok_iff.mpr hread))
  · intro hboth
    have hnone := decode?_of_givesBoth hboth
    refine ⟨herror ?_, hfails.mpr hnone⟩
    intro control hread
    exact hnone _ (control_eq_ok_iff.mp (hparse.symm.trans hread))

/-- An export with a single mapping. -/
def singleExport (control : Value) : Value :=
  .object [
    ("deviceId", .text "x"),
    ("mappings", .array [.object [
      ("name", .text "A"),
      ("target", .text "button"),
      ("index", .natural 0),
      ("mapsTo", control)]])]

/-- The same with the control left open. -/
def singleGap : ControlGap where
  mapping := ⟨.member [(piecesOf "deviceId", phraseOf (.text "x"))] (piecesOf "mappings") []
    (keyOf_piecesOf _), [], []⟩
  assignment := .member (memberPhrasesOf [("name", .text "A"), ("target", .text "button"),
    ("index", .natural 0)]) (piecesOf "mapsTo") [] (keyOf_piecesOf _)

theorem fill_singleGap (control : Value) :
    singleGap.fill (phraseOf control) = phraseOf (singleExport control) := by
  simp [singleGap, singleExport, ControlGap.fill, MappingGap.fill, RecordGap.fill, phraseOf,
    phrasesOf, memberPhrasesOf]

/-- The text of an export with a control in it, whose tokens are those of the gap when filled. -/
theorem written_singleExport (control : Value) :
    Written (singleGap.fill (phraseOf control)).tokens
      ((singleExport control).render .compact).toList := by
  rw [fill_singleGap]
  exact written_render .compact _

theorem ofBytes_singleExport :
    Export.ofBytes ((singleExport (.object [])).render .compact).toUTF8
      = .ok ⟨"x", [⟨⟨"A", .button, 0⟩, none⟩]⟩ := by
  rw [ofBytes_eq_ok_iff]
  exact parse_layout (e := ⟨"x", [⟨⟨"A", .button, 0⟩, none⟩]⟩)
    (List.forall_mem_singleton.mpr ⟨by decide, by simp⟩) .compact

/-- A button behind an axis. -/
def ambiguousControl : Value := .object [("axis", .text "1+"), ("button", .natural 1)]

example : ambiguousControl.render .compact
    = "\x7b\"axis\":\"1+\",\"button\":1\x7d" := by decide +kernel

/-- A button is read in both places, nothing is read where nothing is given, and a control with both
kinds is refused. -/
theorem controls_of_singleExport :
    (Control.parse ((Control.button 3).toJson.render .compact) = .ok (.button 3)
      ∧ LoadsWith ((singleExport (Control.button 3).toJson).render .compact) 0 (some (.button 3)))
    ∧ LoadsWith ((singleExport (.object [])).render .compact) 0 none
    ∧ (∃ problem, Control.parse (ambiguousControl.render .compact) = .error problem)
      ∧ FailsToLoad ((singleExport ambiguousControl).render .compact) := by
  have hagree : ∀ v : Value, _ := fun v => control_decoders_agree (written_singleExport _)
    ofBytes_singleExport (written_render .compact v) (written_singleExport v)
  refine ⟨?_, ?_, ?_⟩
  · have hparse : Control.parse ((Control.button 3).toJson.render .compact) = .ok (.button 3) := by
      rw [Control.parse, decodeDocument_of_written (written_render .compact _), node_phraseOf,
        control_eq_ok_iff]
      exact decode?_control (by decide)
    exact ⟨hparse, ((hagree _).1 _).mp hparse⟩
  · exact (hagree _).2.1.mpr ⟨[], rfl, by simp, .inl rfl, .inl rfl⟩
  · refine (hagree ambiguousControl).2.2.2.2 ⟨_, rfl, ?_, ?_⟩
    · exact ⟨_, List.mem_cons_self, by simp [phraseOf]⟩
    · exact ⟨_, List.mem_cons_self, by simp [phraseOf]⟩

end PadMapping.Proofs
