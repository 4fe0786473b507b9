import PadMapping.Failure
import PadMapping.Proofs.Snippet.Acceptance
import PadMapping.Proofs.Snippet.Omission

/-!
# How far a mapper function reaches

A mapper function is made only if every place of its export is one of the 17 buttons and 4 axes of
the standard layout; otherwise the first place that is none is named. It sets the lengths of the
standard layout to where the last control stands, so that nothing it writes is cut off but buttons
that are never pressed.

The numbers in an export can be as large as a machine word. This module also computes a mapper
function with words, in which a sum can fail to fit and a table can be read past its end, and shows
that neither happens.
-/

namespace PadMapping.Proofs

open Snippet

/-! ## Places -/

/-- The place is one of the standard layout. -/
def InTable (a : Assignment) : Prop :=
  match a.step.target with
  | .button => a.step.index < 17
  | .axis => a.step.index < 4

theorem inTable_iff_hasSlot {a : Assignment} : InTable a ↔ HasSlot a := by
  rw [InTable, HasSlot]
  cases a.step.target <;> exact Iff.rfl

/-- What is said of a place that is not one of the standard layout. -/
def faultOf (a : Assignment) : Fault := ⟨a.step.target, a.step.index⟩

theorem assign_eq_error {m : Mapper} {a : Assignment} (h : ¬InTable a) :
    m.assign a = .error (faultOf a) := by
  rw [inTable_iff_hasSlot, HasSlot] at h
  rw [Mapper.assign, faultOf]
  cases htarget : a.step.target with
  | button | axis =>
      rw [htarget] at h
      simp only [Slot.ofIndex?, dif_neg h]

/-- The first of the assignments whose place is not one of the standard layout. -/
structure FirstOutside (assignments : List Assignment) (a : Assignment) : Prop where
  split : ∃ front back, assignments = front ++ a :: back ∧ ∀ b ∈ front, InTable b
  outside : ¬InTable a

/-- **Adding assignments ends at the first one whose place is not one of the standard layout.** -/
theorem foldlM_assign_cases : ∀ (assignments : List Assignment) (m₀ : Mapper),
    ((∀ a ∈ assignments, InTable a) ∧ ∃ m, assignments.foldlM Mapper.assign m₀ = .ok m)
      ∨ ∃ a, FirstOutside assignments a
        ∧ assignments.foldlM Mapper.assign m₀ = .error (faultOf a) := by
  intro assignments
  induction assignments with
  | nil => exact fun m₀ => .inl ⟨by simp, m₀, rfl⟩
  | cons a rest ih =>
      intro m₀
      rw [List.foldlM_cons]
      by_cases ha : InTable a
      · obtain ⟨m₁, hm₁⟩ := assign_of_hasSlot (m := m₀) (inTable_iff_hasSlot.mp ha)
        rw [hm₁]
        rcases ih m₁ with ⟨hrest, m, hm⟩ | ⟨b, ⟨⟨front, back, hsplit, hfront⟩, hb⟩, herror⟩
        · exact .inl ⟨List.forall_mem_cons.mpr ⟨ha, hrest⟩, m, hm⟩
        · refine .inr ⟨b, ⟨⟨a :: front, back, by rw [hsplit]; rfl, ?_⟩, hb⟩, herror⟩
          exact List.forall_mem_cons.mpr ⟨ha, hfront⟩
      · rw [assign_eq_error ha]
        exact .inr ⟨a, ⟨⟨[], rest, rfl, by simp⟩, ha⟩, rfl⟩

/-! ## Lengths -/

/-- Whether the assignment brings a control for a place of the kind. -/
def covers (target : Target) (a : Assignment) : Bool :=
  match target, a.step.target, a.control with
  | .button, .button, some _ => true
  | .axis, .axis, some (.axis _ _) => true
  | _, _, _ => false

/-- The length of the standard layout in places of the kind. -/
def lengthOf (target : Target) (m : Mapper) : Nat :=
  match target with
  | .button => m.buttonsLength
  | .axis => m.axesLength

/-- One more than the greatest index of a place of the kind that has a control, or zero. -/
structure IsLength (target : Target) (assignments : List Assignment) (n : Nat) : Prop where
  lt : ∀ a ∈ assignments, covers target a = true → a.step.index < n
  reached : n ≠ 0 → ∃ a ∈ assignments, covers target a = true ∧ a.step.index + 1 = n

theorem isLength_nil (target : Target) : IsLength target [] 0 where
  lt := fun _ ha => absurd ha (by simp)
  reached := fun h => absurd rfl h

section

variable {target : Target} {done : List Assignment} {a : Assignment} {n : Nat}

theorem isLength_concat (h : IsLength target done n) :
    IsLength target (done ++ [a])
      (if covers target a = true then max n (a.step.index + 1) else n) := by
  split
  · rename_i hcovers
    constructor
    · intro b hb hb'
      rcases List.mem_append.mp hb with hb | hb
      · have hlt := h.lt b hb hb'
        omega
      · rw [List.mem_singleton.mp hb]
        omega
    · intro _
      rcases Nat.le_total (a.step.index + 1) n with hle | hle
      · obtain ⟨b, hb, hb', heq⟩ := h.reached (by omega)
        exact ⟨b, List.mem_append_left _ hb, hb', by omega⟩
      · exact ⟨a, by simp, hcovers, by omega⟩
  · rename_i hcovers
    constructor
    · intro b hb hb'
      rcases List.mem_append.mp hb with hb | hb
      · exact h.lt b hb hb'
      · rw [List.mem_singleton.mp hb] at hb'
        exact absurd hb' hcovers
    · intro hn
      obtain ⟨b, hb, hb', heq⟩ := h.reached hn
      exact ⟨b, List.mem_append_left _ hb, hb', heq⟩

/-- Adding an assignment makes the layout longer if there is a control for its place. -/
theorem lengthOf_assign {m m' : Mapper} (h : m.assign a = .ok m') (target : Target) :
    lengthOf target m'
      = if covers target a = true then max (lengthOf target m) (a.step.index + 1)
        else lengthOf target m := by
  rcases assign_cases h with ⟨slot, htarget, hslot, rfl⟩ | ⟨slot, htarget, hslot, rfl⟩
  · rw [← hslot]
    cases hcontrol : a.control with
    | none =>
        cases target <;> simp [covers, htarget, hcontrol, lengthOf, Mapper.assignButton,
          Mapper.push]
    | some control =>
        cases control with
        | axis raw direction =>
            cases target <;> simp [covers, htarget, hcontrol, lengthOf, Mapper.assignButton,
              Mapper.push, Mapper.coverButton]
        | button raw =>
            -- the length does not depend on whether the assignment is left out
            cases target <;> by_cases hraw : raw = slot.index <;> simp [covers, htarget, hcontrol,
              lengthOf, Mapper.assignButton, Mapper.push, Mapper.coverButton, hraw]
  · rw [← hslot]
    cases hcontrol : a.control with
    | none => cases target <;> simp [covers, htarget, hcontrol, lengthOf, Mapper.assignAxis]
    | some control =>
        cases control with
        | button raw =>
            cases target <;> simp [covers, htarget, hcontrol, lengthOf, Mapper.assignAxis]
        | axis raw direction =>
            cases target <;> by_cases hraw : raw = slot.index <;> simp [covers, htarget, hcontrol,
              lengthOf, Mapper.assignAxis, Mapper.push, Mapper.coverAxis, hraw]

end

/-- **The lengths are those of the places with a control.** -/
theorem isLength_ofExport {e : Export} {m : Mapper} (h : Mapper.ofExport e = .ok m)
    (target : Target) : IsLength target e.assignments (lengthOf target m) := by
  refine ofExport_induction (P := fun done m => IsLength target done (lengthOf target m)) ?_ ?_ h
  · cases target <;> exact isLength_nil _
  · intro done m m' a hdone hassign
    rw [lengthOf_assign hassign]
    exact isLength_concat hdone

/-! ## What is written -/

/-- The command writes a place within the lengths, or a button that is never pressed. -/
def Within (buttons axes : Nat) : Command → Prop
  | .setButton index source => source = .nothing ∨ index < buttons
  | .setAxis index _ => index < axes
  | .copy | .setButtonsLength _ | .setAxesLength _ => False

theorem within_of_statement {e : Export} {m : Mapper} (h : Mapper.ofExport e = .ok m)
    {statement : Statement} (hs : statement ∈ m.statements) :
    Within m.buttonsLength m.axesLength (commandOf statement) := by
  rw [statements_ofExport h] at hs
  obtain ⟨a, ha, hstatement⟩ := List.mem_filterMap.mp (List.mem_filter.mp hs).1
  rcases statementOf?_cases hstatement with
    ⟨slot, htarget, hslot, rfl⟩ | ⟨slot, raw, direction, htarget, hslot, hcontrol, rfl⟩
  · cases hcontrol : a.control with
    | none => exact .inl rfl
    | some control =>
        have hlt := (isLength_ofExport h .button).lt a ha (by simp [covers, htarget, hcontrol])
        exact .inr (hslot ▸ hlt)
  · have hlt := (isLength_ofExport h .axis).lt a ha (by simp [covers, htarget, hcontrol])
    rw [← hslot] at hlt
    exact hlt

/-! ## With machine words -/

/-- What can end a computation with words and tables. -/
inductive Stop where
  /-- A place is none of the standard layout. -/
  | fault (fault : Fault)
  /-- A sum does not fit into a word. -/
  | overflow
  /-- A table is read past its end. -/
  | outside
deriving DecidableEq, Repr

/-- One more than a word. -/
def increment (n : Nat) : Except Stop Nat :=
  if n + 1 < Text.wordBound then .ok (n + 1) else .error .overflow

/-- An entry of a table. -/
def entry (target : Target) (i : Nat) : Except Stop String :=
  match (constants target)[i]? with
  | some name => .ok name
  | none => .error .outside

/-- The constant of a place. The last entry of a table is for no place. -/
def slotName (target : Target) (index : Nat) : Except Stop String :=
  match (constants target)[index]? with
  | none => .error (.fault ⟨target, index⟩)
  | some name => do
    if (← increment index) < (constants target).length then return name
    else throw (.fault ⟨target, index⟩)

/-- A mapper function in the making: its lines, and how far it reaches. -/
structure Draft where
  lines : List String
  buttonsLength : Nat
  axesLength : Nat

namespace Draft

/-- Sets a button. -/
def setButton (d : Draft) (name : String) (source : ButtonSource) : Draft :=
  { d with
    lines := d.lines ++ ["  mapped->buttons[" ++ name ++ "] = " ++ source.expression ++ ";\n"] }

/-- Sets an axis. -/
def setAxis (d : Draft) (name : String) (raw : Nat) : Draft :=
  { d with lines := d.lines ++ ["  mapped->axes[" ++ name ++ "] = " ++ rawAxis raw ++ ";\n"] }

/-- Adds the result of a step. -/
def assign (d : Draft) (a : Assignment) : Except Stop Draft := do
  let name ← slotName a.step.target a.step.index
  match a.step.target, a.control with
  | .button, none => return d.setButton name .nothing
  | .button, some (.button raw) =>
    let next ← increment a.step.index
    let d := if raw = a.step.index then d else d.setButton name (.button raw)
    return { d with buttonsLength := max d.buttonsLength next }
  | .button, some (.axis raw direction) =>
    let next ← increment a.step.index
    let d := d.setButton name (.axis raw direction)
    return { d with buttonsLength := max d.buttonsLength next }
  | .axis, some (.axis raw _) =>
    let next ← increment a.step.index
    let d := if raw = a.step.index then d else d.setAxis name raw
    return { d with axesLength := max d.axesLength next }
  | .axis, _ => return d

/-- The text of a mapper function. Its lengths are constants of the tables as well. -/
def print (d : Draft) (name : String) : Except Stop String := do
  let buttons ← entry .button d.buttonsLength
  let axes ← entry .axis d.axesLength
  return firstLine name ++ "  *mapped = input;\n" ++ String.join d.lines
    ++ "  mapped->buttonsLength = " ++ buttons ++ ";\n"
    ++ "  mapped->axesLength = " ++ axes ++ ";\n" ++ "\x7d"

end Draft

/-- The mapper function for an export, computed with words. -/
def wordFunction (e : Export) (name : String) : Except Stop String := do
  let d ← e.assignments.foldlM Draft.assign ⟨[], 0, 0⟩
  d.print name

/-- What is computed without words, as it comes out with them. -/
def withWords {α β : Type} (f : α → β) : Except Fault α → Except Stop β
  | .ok a => .ok (f a)
  | .error fault => .error (.fault fault)

/-- A mapper function as a draft. -/
def draftOf (m : Mapper) : Draft :=
  ⟨m.statements.map Statement.line, m.buttonsLength, m.axesLength⟩

theorem increment_eq {target : Target} {i : Nat} (h : i < (constants target).length) :
    increment i = .ok (i + 1) := by
  have hlength : (constants target).length < Text.wordBound := by
    cases target <;> decide
  exact if_pos (by omega)

theorem getElem?_constants {target : Target} {i : Nat} (h : i < (constants target).length) :
    (constants target)[i]? = some (constant target i) := by
  rw [List.getElem?_eq_getElem h, constant_eq_getElem h]

theorem entry_eq {target : Target} {i : Nat} (h : i < (constants target).length) :
    entry target i = .ok (constant target i) := by
  rw [entry, getElem?_constants h]

theorem slotName_eq {target : Target} (slot : Slot target) :
    slotName target slot.index = .ok slot.constant := by
  have hlt := slot.index_lt
  rw [slotCount] at hlt
  have hindex : slot.index < (constants target).length := by omega
  rw [slotName, getElem?_constants hindex, increment_eq hindex]
  exact if_pos (by omega)

theorem slotName_eq_error {target : Target} {index : Nat} (h : ¬index < slotCount target) :
    slotName target index = .error (.fault ⟨target, index⟩) := by
  rw [slotName]
  cases hname : (constants target)[index]? with
  | none => rfl
  | some name =>
      obtain ⟨hindex, _⟩ := List.getElem?_eq_some_iff.mp hname
      rw [slotCount] at h
      dsimp only
      rw [increment_eq hindex]
      exact if_neg (by omega)

theorem increment_slot {target : Target} (slot : Slot target) :
    increment slot.index = .ok (slot.index + 1) :=
  increment_eq (Nat.lt_of_lt_of_le slot.index_lt (Nat.sub_le ..))

/-- A line more is a statement more. -/
theorem draftOf_push (m : Mapper) (statement : Statement) :
    draftOf (m.push statement)
      = ⟨(draftOf m).lines ++ [statement.line], m.buttonsLength, m.axesLength⟩ := by
  rw [draftOf, draftOf, Mapper.push, List.map_append, List.map_singleton]

theorem setButton_draftOf (m : Mapper) (slot : Slot .button) (source : ButtonSource) :
    (draftOf m).setButton slot.constant source = draftOf (m.push (.setButton slot source)) :=
  (draftOf_push m (.setButton slot source)).symm

theorem setAxis_draftOf (m : Mapper) (slot : Slot .axis) (raw : Nat) :
    (draftOf m).setAxis slot.constant raw = draftOf (m.push (.setAxis slot raw)) :=
  (draftOf_push m (.setAxis slot raw)).symm

/-- Adding the result of a step with words is the same as without. -/
theorem assign_draftOf (m : Mapper) (a : Assignment) :
    (draftOf m).assign a = withWords draftOf (m.assign a) := by
  by_cases ha : InTable a
  · obtain ⟨m', hm'⟩ := assign_of_hasSlot (m := m) (inTable_iff_hasSlot.mp ha)
    rw [hm']
    rcases assign_cases hm' with ⟨slot, htarget, hslot, rfl⟩ | ⟨slot, htarget, hslot, rfl⟩
    · rw [Draft.assign, htarget, ← hslot, slotName_eq]
      cases hcontrol : a.control with
      | none => exact congrArg Except.ok (setButton_draftOf m slot .nothing)
      | some control =>
          cases control with
          | axis raw direction =>
              show (increment slot.index >>= fun _ => _) = _
              rw [increment_slot]
              refine congrArg Except.ok ?_
              rw [setButton_draftOf]
              rfl
          | button raw =>
              show (increment slot.index >>= fun _ => _) = _
              rw [increment_slot]
              refine congrArg Except.ok ?_
              rw [setButton_draftOf, Mapper.assignButton]
              split <;> rfl
    · rw [Draft.assign, htarget, ← hslot, slotName_eq]
      cases hcontrol : a.control with
      | none => rfl
      | some control =>
          cases control with
          | button raw => rfl
          | axis raw direction =>
              show (increment slot.index >>= fun _ => _) = _
              rw [increment_slot]
              refine congrArg Except.ok ?_
              rw [setAxis_draftOf, Mapper.assignAxis]
              split <;> rfl
  · rw [assign_eq_error ha, Draft.assign, slotName_eq_error (inTable_iff_hasSlot.not.mp ha)]
    rfl

theorem foldlM_draftOf : ∀ (assignments : List Assignment) (m : Mapper),
    assignments.foldlM Draft.assign (draftOf m)
      = withWords draftOf (assignments.foldlM Mapper.assign m) := by
  intro assignments
  induction assignments with
  | nil => exact fun _ => rfl
  | cons a rest ih =>
      intro m
      rw [List.foldlM_cons, List.foldlM_cons, assign_draftOf]
      cases m.assign a with
      | error fault => rfl
      | ok m' => exact ih m'

/-- Tables have names for the lengths. -/
theorem lengths_lt {e : Export} {m : Mapper} (h : Mapper.ofExport e = .ok m) :
    m.buttonsLength < (constants .button).length ∧ m.axesLength < (constants .axis).length := by
  have hcount : ∀ target, slotCount target < (constants target).length := by
    intro target
    cases target <;> decide
  obtain ⟨hbuttons, haxes⟩ := lengths_le h
  exact ⟨Nat.lt_of_le_of_lt hbuttons (hcount .button), Nat.lt_of_le_of_lt haxes (hcount .axis)⟩

theorem print_draftOf {e : Export} {m : Mapper} (h : Mapper.ofExport e = .ok m) (name : String) :
    (draftOf m).print name = .ok (m.print name) := by
  obtain ⟨hbuttons, haxes⟩ := lengths_lt h
  rw [Draft.print, draftOf, entry_eq hbuttons]
  show (entry .axis m.axesLength >>= fun _ => _) = _
  rw [entry_eq haxes]
  exact congrArg Except.ok rfl

/-- **Words make no difference.** No sum fails to fit, and no table is read past its end. -/
theorem wordFunction_eq (e : Export) (name : String) :
    wordFunction e name = withWords (·.print name) (Mapper.ofExport e) := by
  have hfold : e.assignments.foldlM Draft.assign ⟨[], 0, 0⟩
      = withWords draftOf (Mapper.ofExport e) := foldlM_draftOf e.assignments .identity
  rw [wordFunction, hfold]
  cases h : Mapper.ofExport e with
  | error fault => rfl
  | ok m => exact print_draftOf h name

/-! ## Mapper functions for exports -/

/-- What is asked of the text of a mapper function that writes `buttons` and `axes` as lengths. -/
structure Reaches (assignments : List Assignment) (name text : String) (buttons axes : Nat) :
    Prop where
  /-- The lengths stand at the end of the text, by their names in the tables. -/
  ending : ∃ front buttonsName axesName, (constants .button)[buttons]? = some buttonsName
    ∧ (constants .axis)[axes]? = some axesName
    ∧ text = front ++ "  mapped->buttonsLength = " ++ buttonsName ++ ";\n"
      ++ "  mapped->axesLength = " ++ axesName ++ ";\n" ++ "\x7d"
  /-- They are those of the places with a control. -/
  isLength_buttons : IsLength .button assignments buttons
  isLength_axes : IsLength .axis assignments axes
  /-- Nothing else but copying the raw state and writing places within them is done. -/
  within : ∃ body, commandsOf? name text
      = some (.copy :: (body ++ [.setButtonsLength buttons, .setAxesLength axes]))
    ∧ ∀ c ∈ body, Within buttons axes c

theorem reaches_print {e : Export} {m : Mapper} (h : Mapper.ofExport e = .ok m) (name : String) :
    Reaches e.assignments name (m.print name) m.buttonsLength m.axesLength where
  ending := by
    obtain ⟨hbuttons, haxes⟩ := lengths_lt h
    exact ⟨_, _, _, getElem?_constants hbuttons, getElem?_constants haxes, rfl⟩
  isLength_buttons := isLength_ofExport h .button
  isLength_axes := isLength_ofExport h .axis
  within := by
    refine ⟨_, commandsOf?_print h name, ?_⟩
    intro c hc
    obtain ⟨statement, hstatement, rfl⟩ := List.mem_map.mp hc
    exact within_of_statement h hstatement

/--
**When a mapper function is made, and how far it reaches.**

If every place of an export is a button below 17 or an axis below 4, a mapper function is made. The
lengths that it sets are one more than the greatest button that has a control, and one more than the
greatest axis that has an axis as its control, so that nothing but buttons that are never pressed is
written beyond them. Otherwise the first other place is named. Either way nothing but this comes out
with machine words.
-/
theorem mapperFunction_cases (e : Export) (name : String) :
    ((∀ a ∈ e.assignments, InTable a) ∧ ∃ text buttons axes, mapperFunction e name = .ok text
        ∧ wordFunction e name = .ok text ∧ Reaches e.assignments name text buttons axes)
      ∨ ∃ a, FirstOutside e.assignments a ∧ mapperFunction e name = .error (.slot (faultOf a))
        ∧ wordFunction e name = .error (.fault (faultOf a))
        ∧ (Failure.snippet (.slot (faultOf a))).message
          = "Codegen error: " ++ a.step.target.name ++ " index " ++ toString a.step.index
            ++ " has no standard slot" := by
  rw [wordFunction_eq, mapperFunction, Mapper.ofExport]
  rcases foldlM_assign_cases e.assignments .identity with ⟨hall, m, hm⟩ | ⟨a, ha, herror⟩
  · rw [hm]
    exact .inl ⟨hall, m.print name, m.buttonsLength, m.axesLength, rfl, rfl, reaches_print hm name⟩
  · rw [herror]
    refine .inr ⟨a, ha, rfl, rfl, ?_⟩
    show "Codegen error: " ++ (a.step.target.name ++ " index " ++ toString a.step.index
      ++ " has no standard slot") = _
    simp only [String.append_assoc]

/-- The greatest word names no place, and nothing is added to it. -/
example : wordFunction ⟨"Pad", [⟨⟨"Button A", .button, 2 ^ 64 - 1⟩, some (.button 0)⟩]⟩ "Map"
    = .error (.fault ⟨.button, 2 ^ 64 - 1⟩) := rfl

end PadMapping.Proofs
