import PadMapping.Export.Basic
import PadMapping.Proofs.Text.Digits

/-!
# The lines of an export

The text of an export over many lines, written down line by line: how far each line is indented,
what it says, and which lines end with a comma. `exportLines` does so without JSON values and
without the printer of JSON. That the printer comes to the same text is shown from the inside out,
for a quoted text (`toList_quotedText`), a control, a step with its result (`lineChars_stepLines`),
all steps, and the whole export (`pretty_lines`).
-/

namespace PadMapping.Proofs

open Json

/-! ## Quoted texts -/

/-- How the characters below the blank are spelled in a quoted text, by their codes. -/
def controlForms : List String :=
  ["\\u0000", "\\u0001", "\\u0002", "\\u0003", "\\u0004", "\\u0005", "\\u0006", "\\u0007",
    "\\b", "\\t", "\\n", "\\u000b", "\\f", "\\r", "\\u000e", "\\u000f",
    "\\u0010", "\\u0011", "\\u0012", "\\u0013", "\\u0014", "\\u0015", "\\u0016", "\\u0017",
    "\\u0018", "\\u0019", "\\u001a", "\\u001b", "\\u001c", "\\u001d", "\\u001e", "\\u001f"]

/-- How a character is spelled in a quoted text. -/
def charForm (c : Char) : String :=
  if c = '"' then "\\\""
  else if c = '\\' then "\\\\"
  else controlForms.getD c.toNat (String.singleton c)

/-- A text in quotes. -/
def quotedText (s : String) : String := "\"" ++ String.join (s.toList.map charForm) ++ "\""

theorem charForm_of_control :
    ∀ n < 32, (charForm (Char.ofNat n)).toList = escaped (Char.ofNat n) := by
  decide +kernel

theorem escaped_of_plain {c : Char} (hquote : c ≠ '"') (hbackslash : c ≠ '\\')
    (hcontrol : ¬ c.toNat < 32) : escaped c = [c] := by
  rw [escaped.eq_def]
  split
  · exact absurd rfl hquote
  · exact absurd rfl hbackslash
  -- the other characters with a letter of their own are below the blank
  · exact absurd (by decide) hcontrol
  · exact absurd (by decide) hcontrol
  · exact absurd (by decide) hcontrol
  · exact absurd (by decide) hcontrol
  · exact absurd (by decide) hcontrol
  · rw [if_neg hcontrol]

theorem toList_charForm (c : Char) : (charForm c).toList = escaped c := by
  by_cases hcontrol : c.toNat < 32
  · have hform := charForm_of_control c.toNat hcontrol
    rwa [Char.ofNat_toNat] at hform
  by_cases hquote : c = '"'
  · rw [hquote]
    rfl
  by_cases hbackslash : c = '\\'
  · rw [hbackslash]
    rfl
  have hlong : controlForms.length ≤ c.toNat := Nat.le_of_not_lt hcontrol
  rw [charForm, if_neg hquote, if_neg hbackslash, List.getD_eq_getElem?_getD,
    List.getElem?_eq_none hlong, escaped_of_plain hquote hbackslash hcontrol]
  simp

theorem toList_quotedText (s : String) : (quotedText s).toList = quoted s := by
  have hforms : (String.join (s.toList.map charForm)).toList = s.toList.flatMap escaped := by
    rw [String.toList_join, List.flatMap_map]
    simp only [toList_charForm]
  rw [quotedText, quoted, String.toList_append, String.toList_append, hforms]
  rfl

theorem escaped_of_digit {c : Char} (hc : c.isDigit = true) : escaped c = [c] := by
  refine escaped_of_plain ?_ ?_ ?_
  · rintro rfl
    exact absurd hc (by decide)
  · rintro rfl
    exact absurd hc (by decide)
  · have hzero : '0'.toNat ≤ c.toNat := (Char.isDigit_iff_toNat.mp hc).1
    have hcode : '0'.toNat = 48 := rfl
    omega

theorem flatMap_escaped_of_digits {text : List Char} (h : ∀ c ∈ text, c.isDigit = true) :
    text.flatMap escaped = text := by
  induction text with
  | nil => rfl
  | cons c rest ih =>
      have hrest := ih fun d hd => h d (List.mem_cons_of_mem c hd)
      rw [List.flatMap_cons, escaped_of_digit (h c List.mem_cons_self), hrest]
      rfl

/-- There is nothing to escape in a label. -/
theorem quoted_axisLabel (index : Nat) (direction : Direction) :
    quoted (Control.axisLabel index direction)
      = '"' :: (Nat.toDigits 10 index ++ [direction.sign, '"']) := by
  have hsign : escaped direction.sign = [direction.sign] := by cases direction <;> decide
  have hdigits : (Nat.toDigits 10 index).flatMap escaped = Nat.toDigits 10 index :=
    flatMap_escaped_of_digits fun _ hc => isDigit_of_mem_decimal hc
  simp [quoted, Control.axisLabel, hsign, hdigits]

/-! ## Lines -/

/-- A line with two blanks in front for each level. -/
def indent (level : Nat) (line : String) : String :=
  String.ofList (List.replicate (2 * level) ' ') ++ line

theorem toList_indent (level : Nat) (line : String) :
    (indent level line).toList = List.replicate (2 * level) ' ' ++ line.toList := by
  rw [indent, String.toList_append, String.toList_ofList]

/-- How a direction is spelled. -/
def directionForm : Direction → String
  | .positive => "+"
  | .negative => "-"

theorem toList_directionForm (direction : Direction) :
    (directionForm direction).toList = [direction.sign] := by
  cases direction <;> rfl

/-- The line for the one member of a control. -/
def controlLine : Control → String
  | .button index => indent 4 ("\"button\": " ++ toString index)
  | .axis index direction =>
    indent 4 ("\"axis\": \"" ++ toString index ++ directionForm direction ++ "\"")

/-- The lines for the result of a step. -/
def resultLines : Option Control → List String
  | none => [indent 3 "\"mapsTo\": \x7b\x7d"]
  | some control => [indent 3 "\"mapsTo\": \x7b", controlLine control, indent 3 "\x7d"]

/-- How the kind of a target is spelled. -/
def targetForm : Target → String
  | .button => "\"button\""
  | .axis => "\"axis\""

/-- The lines for a step and its result. A comma may come behind them. -/
def stepLines (a : Assignment) (comma : String) : List String :=
  [indent 2 "\x7b",
    indent 3 ("\"name\": " ++ quotedText a.step.name ++ ","),
    indent 3 ("\"target\": " ++ targetForm a.step.target ++ ","),
    indent 3 ("\"index\": " ++ toString a.step.index ++ ",")]
  ++ resultLines a.control ++ [indent 2 ("\x7d" ++ comma)]

/-- The lines for all steps, with commas between them. -/
def stepsLines : List Assignment → List String
  | [] => []
  | [a] => stepLines a ""
  | a :: b :: rest => stepLines a "," ++ stepsLines (b :: rest)

/-- The lines of an export. -/
def exportLines (e : Export) : List String :=
  ["\x7b", indent 1 ("\"deviceId\": " ++ quotedText e.deviceId ++ ",")]
  ++ (if e.assignments = [] then [indent 1 "\"mappings\": []"]
    else [indent 1 "\"mappings\": ["] ++ stepsLines e.assignments ++ [indent 1 "]"])
  ++ ["\x7d"]

/-- The characters of lines, each with a line feed behind it. -/
def lineChars (lines : List String) : List Char := lines.flatMap fun line => line.toList ++ ['\n']

theorem lineChars_append (front back : List String) :
    lineChars (front ++ back) = lineChars front ++ lineChars back :=
  List.flatMap_append

theorem lineChars_cons (line : String) (rest : List String) :
    lineChars (line :: rest) = line.toList ++ '\n' :: lineChars rest := by
  simp [lineChars]

theorem lineChars_nil : lineChars [] = [] := rfl

/-! ## What is printed -/

theorem print_control (control : Control) :
    control.toJson.print .indented 3
      = '{' :: '\n' :: lineChars [controlLine control] ++ List.replicate 6 ' ' ++ ['}'] := by
  have hbutton : quoted "button" = "\"button\"".toList := by decide
  have haxis : quoted "axis" = "\"axis\"".toList := by decide
  cases control with
  | button index =>
      simp only [Control.toJson, Value.print, printMembers, hbutton]
      simp [lineChars, controlLine, toList_indent, Layout.newline, Layout.colon]
  | axis index direction =>
      simp only [Control.toJson, Value.print, printMembers, haxis, quoted_axisLabel]
      simp [lineChars, controlLine, toList_indent, toList_directionForm, Layout.newline,
        Layout.colon]

theorem quoted_target (target : Target) : quoted target.name = (targetForm target).toList := by
  cases target <;> decide

/-- The value for the result of a step. -/
def resultValue : Option Control → Value
  | none => .object []
  | some control => control.toJson

theorem toJson_eq (a : Assignment) :
    a.toJson = .object [("name", .text a.step.name), ("target", .text a.step.target.name),
      ("index", .natural a.step.index), ("mapsTo", resultValue a.control)] := rfl

theorem lineChars_resultLines (result : Option Control) :
    lineChars (resultLines result)
      = List.replicate 6 ' ' ++ quoted "mapsTo" ++ Layout.indented.colon
        ++ (resultValue result).print .indented 3 ++ ['\n'] := by
  have hname : quoted "mapsTo" = "\"mapsTo\"".toList := by decide
  cases result with
  | none =>
      simp only [resultValue, Value.print, hname]
      simp [resultLines, lineChars, toList_indent, Layout.colon]
  | some control =>
      simp only [resultValue, print_control, hname]
      simp [resultLines, lineChars, toList_indent, Layout.colon]

theorem lineChars_stepLines (a : Assignment) (comma : String) :
    lineChars (stepLines a comma)
      = List.replicate 4 ' ' ++ a.toJson.print .indented 2 ++ comma.toList ++ ['\n'] := by
  have hname : quoted "name" = "\"name\"".toList := by decide
  have htarget : quoted "target" = "\"target\"".toList := by decide
  have hindex : quoted "index" = "\"index\"".toList := by decide
  rw [stepLines, lineChars_append, lineChars_append, lineChars_resultLines]
  simp only [toJson_eq, Value.print, printMembers, quoted_target, hname, htarget, hindex]
  simp [lineChars, toList_indent, toList_quotedText, Layout.newline, Layout.colon]

theorem lineChars_stepsLines (a : Assignment) (rest : List Assignment) :
    lineChars (stepsLines (a :: rest))
      = List.replicate 4 ' ' ++ a.toJson.print .indented 2
        ++ printItems .indented 2 (rest.map Assignment.toJson) ++ ['\n'] := by
  induction rest generalizing a with
  | nil =>
      rw [stepsLines, lineChars_stepLines, List.map_nil, printItems]
      rfl
  | cons b rest ih =>
      rw [stepsLines, lineChars_append, lineChars_stepLines, ih, List.map_cons, printItems]
      simp [Layout.newline]

/--
**An export over many lines is these lines.**

The text that is shown and saved is the lines of the export with line feeds between them.
-/
theorem pretty_lines (e : Export) : lineChars (exportLines e) = e.pretty.toList ++ ['\n'] := by
  have hid : quoted "deviceId" = "\"deviceId\"".toList := by decide
  have hmappings : quoted "mappings" = "\"mappings\"".toList := by decide
  obtain ⟨deviceId, assignments⟩ := e
  rw [Export.pretty, Value.render, String.toList_ofList, exportLines, lineChars_append,
    lineChars_append]
  cases assignments with
  | nil =>
      simp only [Export.toJson, List.map_nil, Value.print, printMembers, hid, hmappings]
      simp [lineChars, toList_indent, toList_quotedText, Layout.newline, Layout.colon]
  | cons a rest =>
      simp only [Export.toJson, List.map_cons, Value.print, printMembers, hid, hmappings,
        if_neg (List.cons_ne_nil a rest), lineChars_append, lineChars_stepsLines]
      simp [lineChars, toList_indent, toList_quotedText, Layout.newline, Layout.colon]

end PadMapping.Proofs
