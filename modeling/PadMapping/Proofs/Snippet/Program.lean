import PadMapping.Proofs.Session
import PadMapping.Proofs.Snippet.Places
import PadMapping.Proofs.Snippet.Reading

/-!
# A mapper function as a program

What somebody gets who asks for a mapper function is a text. This module reads the text as a
program, carries the program out on the state of a gamepad, and shows that this does what the
export says.

Two facts make the program the mapper function that was printed. The text falls back into its lines,
since no line holds a line end; and every constant in it is in its table, since a slot never is the
last entry of a table and so one more than a slot still is an entry.
-/

namespace PadMapping.Proofs

open Snippet

/-! ## Programs -/

/-- The first line of the mapper function with the given name. -/
def firstLine (name : String) : String :=
  "void " ++ name ++ "(const blink::WebGamepad& input, blink::WebGamepad* mapped) \x7b\n"

/-- The commands of the mapper function with the given name: all its lines but the first, which
bears the name, and the last, which is a closing brace. -/
def commandsOf? (name text : String) : Option (List Command) := do
  let body ← (firstLine name).toList.isPrefixOf? text.toList
  let lines := body.splitOn '\n'
  if lines.getLast? = some ['\x7d'] then lines.dropLast.mapM Command.ofLine? else none

theorem newline_notMem_digits (n : Nat) : '\n' ∉ Nat.toDigits 10 n := fun hmem =>
  absurd (isDigit_of_mem_decimal hmem) (by decide)

theorem newline_notMem_expression (source : ButtonSource) :
    '\n' ∉ source.expression.toList := by
  cases source with
  | nothing => exact by decide
  | button raw =>
      show '\n' ∉ ("input.buttons[" ++ toString raw ++ "]").toList
      simp [newline_notMem_digits]
  | axis raw direction =>
      cases direction with
      | positive =>
          show '\n' ∉ ("AxisPositiveAsButton(" ++ rawAxis raw ++ ")").toList
          simp [rawAxis, newline_notMem_digits]
      | negative =>
          show '\n' ∉ ("AxisNegativeAsButton(" ++ rawAxis raw ++ ")").toList
          simp [rawAxis, newline_notMem_digits]

theorem newline_notMem_line {c : Command} (h : c.Named) : '\n' ∉ c.line.toList := by
  have hconstant : ∀ {target i}, i < (constants target).length →
      '\n' ∉ (constant target i).toList := fun hi =>
    (plain_of_mem_constants _ _ (constant_mem hi)).2.2
  cases c with
  | copy => exact by decide
  | setButton index source =>
      show '\n' ∉ ("  mapped->buttons[" ++ _ ++ "] = " ++ _ ++ ";").toList
      simp [hconstant h, newline_notMem_expression]
  | setAxis index raw =>
      show '\n' ∉ ("  mapped->axes[" ++ _ ++ "] = " ++ _ ++ ";").toList
      simp [hconstant h, rawAxis, newline_notMem_digits]
  | setButtonsLength length =>
      show '\n' ∉ ("  mapped->buttonsLength = " ++ _ ++ ";").toList
      simp [hconstant h]
  | setAxesLength length =>
      show '\n' ∉ ("  mapped->axesLength = " ++ _ ++ ";").toList
      simp [hconstant h]

theorem ofLine?_line {c : Command} (h : c.Named) : Command.ofLine? c.line.toList = some c := by
  have hread := reads_command h []
  rw [List.append_nil] at hread
  rw [Command.ofLine?, hread]

/-- A command in a line of its own. -/
def Command.text (c : Command) : List Char := c.line.toList ++ ['\n']

/-- Lines that are written one after another are found again. -/
theorem splitOn_text {last : List Char} (hlast : '\n' ∉ last) : ∀ {cs : List Command},
    (∀ c ∈ cs, c.Named) →
      (cs.flatMap Command.text ++ last).splitOn '\n' = cs.map (·.line.toList) ++ [last] := by
  intro cs
  induction cs with
  | nil => exact fun _ => List.splitOn_eq_singleton hlast
  | cons c cs ih =>
      intro h
      have hc := newline_notMem_line (h c (by simp))
      have hrest := ih fun c' hc' => h c' (List.mem_cons_of_mem c hc')
      rw [List.flatMap_cons, Command.text, List.append_assoc, List.append_assoc,
        List.singleton_append, List.splitOn_append_cons_self_of_not_mem hc, hrest, List.map_cons,
        List.cons_append]

theorem mapM_ofLine? : ∀ {cs : List Command}, (∀ c ∈ cs, c.Named) →
    (cs.map (·.line.toList)).mapM Command.ofLine? = some cs := by
  intro cs
  induction cs with
  | nil => exact fun _ => rfl
  | cons c cs ih =>
      intro h
      rw [List.map_cons, List.mapM_cons, ofLine?_line (h c (by simp)),
        ih fun c' hc' => h c' (List.mem_cons_of_mem c hc')]
      rfl

/-- A text that is made of commands is read back as these commands. -/
theorem commandsOf?_text {name text : String} {cs : List Command} (h : ∀ c ∈ cs, c.Named)
    (htext : text.toList = (firstLine name).toList ++ (cs.flatMap Command.text ++ ['\x7d'])) :
    commandsOf? name text = some cs := by
  have hbody : (firstLine name).toList.isPrefixOf? text.toList
      = some (cs.flatMap Command.text ++ ['\x7d']) :=
    List.isPrefixOf?_eq_some_iff_append_eq.mpr htext.symm
  have hlast : '\n' ∉ ['\x7d'] := by decide
  rw [commandsOf?, hbody]
  show (if (List.splitOn '\n' _).getLast? = some ['\x7d'] then _ else none) = some cs
  rw [splitOn_text hlast h, if_pos (by simp), List.dropLast_concat, mapM_ofLine? h]

/-! ## Printed mapper functions -/

/-- The command that an assignment is. -/
def commandOf : Statement → Command
  | .setButton slot source => .setButton slot.index source
  | .setAxis slot raw => .setAxis slot.index raw

/-- The commands that a mapper function is printed as. -/
def commandsOf (m : Mapper) : List Command :=
  .copy :: (m.statements.map commandOf
    ++ [.setButtonsLength m.buttonsLength, .setAxesLength m.axesLength])

theorem text_commandOf (s : Statement) : s.line.toList = (commandOf s).text := by
  cases s with
  | setButton slot source =>
      show ("  mapped->buttons[" ++ slot.constant ++ "] = " ++ source.expression ++ ";\n").toList
        = ("  mapped->buttons[" ++ slot.constant ++ "] = " ++ source.expression ++ ";").toList
          ++ ['\n']
      simp
  | setAxis slot raw =>
      show ("  mapped->axes[" ++ slot.constant ++ "] = " ++ rawAxis raw ++ ";\n").toList
        = ("  mapped->axes[" ++ slot.constant ++ "] = " ++ rawAxis raw ++ ";").toList ++ ['\n']
      simp

theorem text_commandsOf (m : Mapper) : (commandsOf m).flatMap Command.text
    = ("  *mapped = input;\n" ++ String.join (m.statements.map Statement.line)
      ++ "  mapped->buttonsLength = " ++ constant .button m.buttonsLength ++ ";\n"
      ++ "  mapped->axesLength = " ++ constant .axis m.axesLength ++ ";\n").toList := by
  have hstatements : (m.statements.map commandOf).flatMap Command.text
      = (String.join (m.statements.map Statement.line)).toList := by
    rw [String.toList_join, List.flatMap_map, List.flatMap_map]
    exact congrArg (List.flatMap · m.statements) (funext fun s => (text_commandOf s).symm)
  rw [commandsOf, List.flatMap_cons, List.flatMap_append, hstatements, List.flatMap_cons,
    List.flatMap_singleton]
  show "  *mapped = input;".toList ++ ['\n'] ++ (_
    ++ (("  mapped->buttonsLength = " ++ constant .button m.buttonsLength ++ ";").toList ++ ['\n']
    ++ (("  mapped->axesLength = " ++ constant .axis m.axesLength ++ ";").toList ++ ['\n']))) = _
  simp

theorem print_toList (m : Mapper) (name : String) : (m.print name).toList
    = (firstLine name).toList ++ ((commandsOf m).flatMap Command.text ++ ['\x7d']) := by
  rw [text_commandsOf]
  -- the text begins with the first line, only the pieces are joined in another order
  show (firstLine name ++ "  *mapped = input;\n" ++ String.join (m.statements.map Statement.line)
    ++ "  mapped->buttonsLength = " ++ constant .button m.buttonsLength ++ ";\n"
    ++ "  mapped->axesLength = " ++ constant .axis m.axesLength ++ ";\n" ++ "\x7d").toList = _
  simp

theorem lengths_assignButton (m : Mapper) (slot : Slot .button) (control : Option Control) :
    (m.assignButton slot control).buttonsLength ≤ max m.buttonsLength (slot.index + 1)
      ∧ (m.assignButton slot control).axesLength = m.axesLength := by
  cases control with
  | none => exact ⟨Nat.le_max_left .., rfl⟩
  | some control =>
      cases control with
      | axis n direction => exact ⟨Nat.le_refl _, rfl⟩
      | button n =>
          rw [Mapper.assignButton]
          split <;> exact ⟨Nat.le_refl _, rfl⟩

theorem lengths_assignAxis (m : Mapper) (slot : Slot .axis) (control : Option Control) :
    (m.assignAxis slot control).buttonsLength = m.buttonsLength
      ∧ (m.assignAxis slot control).axesLength ≤ max m.axesLength (slot.index + 1) := by
  cases control with
  | none => exact ⟨rfl, Nat.le_max_left ..⟩
  | some control =>
      cases control with
      | button n => exact ⟨rfl, Nat.le_max_left ..⟩
      | axis n direction =>
          rw [Mapper.assignAxis]
          split <;> exact ⟨rfl, Nat.le_refl _⟩

/-- The lengths of a mapper function are numbers of places. -/
theorem lengths_le {e : Export} {m : Mapper} (h : Mapper.ofExport e = .ok m) :
    m.buttonsLength ≤ slotCount .button ∧ m.axesLength ≤ slotCount .axis := by
  refine ofExport_induction
    (P := fun _ m => m.buttonsLength ≤ slotCount .button ∧ m.axesLength ≤ slotCount .axis)
    ⟨Nat.zero_le _, Nat.zero_le _⟩ ?_ h
  rintro done m m' a ⟨hbuttons, haxes⟩ hassign
  rcases assign_cases hassign with ⟨slot, _, _, rfl⟩ | ⟨slot, _, _, rfl⟩
  · obtain ⟨hbuttons', haxes'⟩ := lengths_assignButton m slot a.control
    have hmax := Nat.max_le.mpr ⟨hbuttons, slot.index_lt⟩
    exact ⟨Nat.le_trans hbuttons' hmax, haxes' ▸ haxes⟩
  · obtain ⟨hbuttons', haxes'⟩ := lengths_assignAxis m slot a.control
    have hmax := Nat.max_le.mpr ⟨haxes, slot.index_lt⟩
    exact ⟨hbuttons' ▸ hbuttons, Nat.le_trans haxes' hmax⟩

/-- **What is printed is read back.** The text of the mapper function for an export is the program
that the mapper function is. -/
theorem commandsOf?_print {e : Export} {m : Mapper} (h : Mapper.ofExport e = .ok m)
    (name : String) : commandsOf? name (m.print name) = some (commandsOf m) := by
  have hslot : ∀ {target : Target} (slot : Slot target), slot.index < (constants target).length :=
    fun slot => Nat.lt_of_lt_of_le slot.index_lt (Nat.sub_le ..)
  have hcount : ∀ target, slotCount target < (constants target).length := by
    intro target
    cases target <;> decide
  obtain ⟨hbuttons, haxes⟩ := lengths_le h
  refine commandsOf?_text ?_ (print_toList m name)
  intro c hc
  rw [commandsOf, List.mem_cons, List.mem_append, List.mem_map] at hc
  rcases hc with rfl | ⟨s, _, rfl⟩ | hc
  · trivial
  · cases s with
    | setButton slot source => exact hslot slot
    | setAxis slot raw => exact hslot slot
  · rw [List.mem_pair] at hc
    rcases hc with rfl | rfl
    · exact Nat.lt_of_le_of_lt hbuttons (hcount .button)
    · exact Nat.lt_of_le_of_lt haxes (hcount .axis)

/-! ## Carrying a program out -/

/-- The state of a gamepad with the numbers of its buttons and axes. -/
structure Pad (Button Axis : Type) extends PadState Button Axis where
  buttonsLength : Nat
  axesLength : Nat

variable {Button Axis : Type} (conversion : Conversion Button Axis)

/-- Carries out a command. Whatever it reads, it reads from the raw state. -/
def Command.exec (input mapped : Pad Button Axis) : Command → Pad Button Axis
  | .copy => input
  | .setButton index source =>
    { mapped with toPadState := mapped.setButton index (source.eval conversion input.toPadState) }
  | .setAxis index raw => { mapped with toPadState := mapped.setAxis index (input.axes raw) }
  | .setButtonsLength length => { mapped with buttonsLength := length }
  | .setAxesLength length => { mapped with axesLength := length }

/-- Carries out a program. -/
def runProgram (program : List Command) (input mapped : Pad Button Axis) : Pad Button Axis :=
  program.foldl (fun mapped command => command.exec conversion input mapped) mapped

theorem exec_commandOf (input mapped : Pad Button Axis) (s : Statement) :
    (commandOf s).exec conversion input mapped
      = { mapped with toPadState := s.exec conversion input.toPadState mapped.toPadState } := by
  cases s with
  | setButton slot source => rfl
  | setAxis slot raw => rfl

theorem run_statements (input : Pad Button Axis) : ∀ (statements : List Statement)
    (mapped : Pad Button Axis), runProgram conversion (statements.map commandOf) input mapped
      = { mapped with
          toPadState := statements.foldl
            (fun mapped s => s.exec conversion input.toPadState mapped) mapped.toPadState } := by
  intro statements
  induction statements with
  | nil => exact fun _ => rfl
  | cons s statements ih =>
      intro mapped
      show runProgram conversion (statements.map commandOf) input
        ((commandOf s).exec conversion input mapped) = _
      rw [exec_commandOf, ih, List.foldl_cons]

/-- The program of a mapper function computes what the mapper function does, whatever stood in the
state that it fills. -/
theorem run_commandsOf (m : Mapper) (input mapped : Pad Button Axis) :
    runProgram conversion (commandsOf m) input mapped
      = ⟨m.eval conversion input.toPadState, m.buttonsLength, m.axesLength⟩ := by
  have hstatements := run_statements conversion input m.statements input
  rw [runProgram] at hstatements
  rw [runProgram, commandsOf, List.foldl_cons, List.foldl_append]
  show List.foldl _ (List.foldl _ input _) _ = _
  rw [hstatements]
  rfl

/-- **The text of a mapper function does what its export says.**

If no place is named twice, a mapper function that is given can be read as a program. For every
state of a gamepad it gives each place that the export names the state it should have, and leaves
all other places as they are.
-/
theorem run_mapperFunction {e : Export} {name text : String} (hdistinct : Distinct e.assignments)
    (h : mapperFunction e name = .ok text) :
    ∃ program, commandsOf? name text = some program
      ∧ ∀ {Button Axis : Type} (conversion : Conversion Button Axis)
          (input mapped : Pad Button Axis),
        Implements conversion input.toPadState e.assignments
          (runProgram conversion program input mapped).toPadState := by
  rw [mapperFunction] at h
  split at h
  · exact absurd h (by simp)
  · rename_i m hm
    injection h with h
    subst h
    refine ⟨commandsOf m, commandsOf?_print hm name, ?_⟩
    intro Button Axis conversion input mapped
    rw [run_commandsOf]
    exact implements_ofExport conversion input.toPadState hdistinct hm

theorem distinct_of_standardSteps {s : Session} (h : stepsOf s = standardSteps)
    (deviceId : String) : Distinct (Export.ofSession deviceId s).assignments := by
  have hplaces : (Export.ofSession deviceId s).assignments.map placeOf
      = (stepsOf s).map fun step => (step.target, step.index) := by
    simp [Export.ofSession, stepsOf, Function.comp_def, placeOf]
  rw [Distinct, hplaces, h]
  decide

/-- A session in which the first two buttons were pressed in the wrong order. -/
def swappedSession : Session :=
  recorded (recorded (.start standardSteps) (.button 1)) (.button 0)

/-- The two buttons are exchanged, a button without a control is never pressed, and axes stay. -/
theorem run_of_swappedSession : ∃ text program,
    mapperFunction (.ofSession "Pad" swappedSession) "Swap" = .ok text
      ∧ commandsOf? "Swap" text = some program
      ∧ ∀ {Button Axis : Type} (conversion : Conversion Button Axis)
          (input mapped : Pad Button Axis),
        (runProgram conversion program input mapped).buttons 0 = input.buttons 1
          ∧ (runProgram conversion program input mapped).buttons 1 = input.buttons 0
          ∧ (runProgram conversion program input mapped).buttons 2 = conversion.null
          ∧ (runProgram conversion program input mapped).axes 0 = input.axes 0 := by
  have hsteps : stepsOf swappedSession = standardSteps := by
    rw [swappedSession, stepsOf_recorded, stepsOf_recorded, stepsOf_start]
  obtain ⟨text, htext⟩ : ∃ text,
      mapperFunction (.ofSession "Pad" swappedSession) "Swap" = .ok text := ⟨_, rfl⟩
  obtain ⟨program, hprogram, hrun⟩ :=
    run_mapperFunction (distinct_of_standardSteps hsteps "Pad") htext
  refine ⟨text, program, htext, hprogram, ?_⟩
  intro Button Axis conversion input mapped
  obtain ⟨hplaced, _, _⟩ := hrun conversion input mapped
  refine ⟨?_, ?_, ?_, ?_⟩
  · exact hplaced ⟨⟨"Button A", .button, 0⟩, some (.button 1)⟩ (by decide)
  · exact hplaced ⟨⟨"Button B", .button, 1⟩, some (.button 0)⟩ (by decide)
  · exact hplaced ⟨⟨"Button X", .button, 2⟩, none⟩ (by decide)
  · exact hplaced ⟨⟨"Axis Left Analog Stick Horizontal", .axis, 0⟩, none⟩ (by decide)

end PadMapping.Proofs
