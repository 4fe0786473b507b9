import Mathlib.Data.List.Nodup
import PadMapping.Proofs.Text.Digits
import PadMapping.Snippet.Printer

/-!
# Reading the lines of a mapper function

The text of a mapper function is a program of a very small language. Its lines are commands: one
copies the raw state, the others write a button, an axis or a length. This module reads such a line
back, and shows that reading what was printed gives the command that was meant.

A reader takes something from the front of a text. `Reads r text a` says that `r` finds `a` where
`text` stands, whatever comes after it, so that readers can be put together in the way in which
their texts are.
-/

namespace PadMapping.Proofs

open Snippet

/-! ## Readers -/

/-- A reader gives what it found at the front of a text and what comes after. -/
abbrev Reader := StateT (List Char) Option

namespace Reader

/-- The given word. -/
def word (w : String) : Reader Unit := fun text => (w.toList.isPrefixOf? text).map ((), ·)

/-- All that comes before the first of the given character, which is passed over. -/
def upTo (close : Char) : Reader (List Char) := fun text =>
  match text.dropWhile (· != close) with
  | [] => none
  | _ :: rest => some (text.takeWhile (· != close), rest)

/-- Nothing, but only if the answer is known. -/
def known {α : Type} (answer : Option α) : Reader α := fun text => answer.map (·, text)

end Reader

variable {α β : Type}

/-- Where `text` stands, the reader finds `a`. -/
def Reads (r : Reader α) (text : List Char) (a : α) : Prop :=
  ∀ rest, r (text ++ rest) = some (a, rest)

/-- Where `text` stands, the reader finds nothing. -/
def Fails (r : Reader α) (text : List Char) : Prop := ∀ rest, r (text ++ rest) = none

namespace Reads

theorem pure (a : α) : Reads (pure a) [] a := fun _ => rfl

theorem bind {r : Reader α} {f : α → Reader β} {front back : List Char} {a : α} {b : β}
    (h : Reads r front a) (hf : Reads (f a) back b) : Reads (r >>= f) (front ++ back) b := by
  intro rest
  show (r (front ++ back ++ rest)).bind (fun p => f p.1 p.2) = some (b, rest)
  rw [List.append_assoc, h (back ++ rest)]
  exact hf rest

theorem map {r : Reader α} {text : List Char} {a : α} (f : α → β) (h : Reads r text a) :
    Reads (do return f (← r)) text (f a) := by
  have hbind := Reads.bind (f := fun a => Pure.pure (f a)) h (Reads.pure (f a))
  rwa [List.append_nil] at hbind

/-- The first of two readers that finds something decides. -/
theorem orElse_left {r : Reader α} {text : List Char} {a : α} (h : Reads r text a)
    (r' : Reader α) : Reads (r <|> r') text a := by
  intro rest
  show (r (text ++ rest) <|> r' (text ++ rest)) = some (a, rest)
  rw [h rest]
  rfl

theorem orElse_right {r r' : Reader α} {text : List Char} {a : α} (hfails : Fails r text)
    (h : Reads r' text a) : Reads (r <|> r') text a := by
  intro rest
  show (r (text ++ rest) <|> r' (text ++ rest)) = some (a, rest)
  rw [hfails rest]
  exact h rest

theorem word (w : String) : Reads (Reader.word w) w.toList () := by
  intro rest
  have h : w.toList.isPrefixOf? (w.toList ++ rest) = some rest :=
    List.isPrefixOf?_eq_some_iff_append_eq.mpr rfl
  rw [Reader.word, h]
  rfl

theorem known {answer : Option α} {a : α} (h : answer = some a) :
    Reads (Reader.known answer) [] a := by
  subst h
  exact fun _ => rfl

theorem upTo {close : Char} {text : List Char} (h : close ∉ text) :
    Reads (Reader.upTo close) (text ++ [close]) text := by
  intro rest
  have hne : ∀ c ∈ text, (c != close) = true := by
    intro c hc
    have hc' : c ≠ close := fun heq => h (heq ▸ hc)
    simpa using hc'
  have hstop : StopsAt (· != close) (close :: rest) := stopsAt_cons.mpr (by simp)
  rw [List.append_assoc, List.singleton_append, Reader.upTo,
    dropWhile_of_stopsAt hne hstop, takeWhile_of_stopsAt hne hstop]

end Reads

/-- A reader for which another word has to come first finds nothing. -/
theorem fails_of_word {w : String} {f : Unit → Reader α} {text : List Char}
    (h : ∀ rest, w.toList.isPrefixOf? (text ++ rest) = none) :
    Fails (Reader.word w >>= f) text := by
  intro rest
  show ((w.toList.isPrefixOf? (text ++ rest)).map ((), ·)).bind (fun p => f p.1 p.2) = none
  rw [h rest]
  rfl

theorem Fails.bind {r : Reader α} {text : List Char} {f : α → Reader β} (h : Fails r text) :
    Fails (r >>= f) text := by
  intro rest
  show (r (text ++ rest)).bind (fun p => f p.1 p.2) = none
  rw [h rest]
  rfl

/-! ## Commands -/

/-- A line of a mapper function. Places are numbered by the positions of their constants. -/
inductive Command where
  /-- All of the raw state is copied. -/
  | copy
  | setButton (index : Nat) (source : ButtonSource)
  | setAxis (index raw : Nat)
  | setButtonsLength (length : Nat)
  | setAxesLength (length : Nat)
deriving DecidableEq, Repr

namespace Reader

/-- A number in front of a closing bracket. -/
def number : Reader Nat := do known (Text.digits? (← upTo ']'))

/-- A constant in front of the given character: it is worth its position in its table. -/
def constant (target : Target) (close : Char) : Reader Nat := do
  known ((constants target).idxOf? (String.ofList (← upTo close)))

/-- A raw axis. -/
def axis : Reader Nat := do
  word "input.axes["
  number

/-- A raw axis as the argument of a call. -/
def call (front : String) : Reader Nat := do
  word front
  let raw ← axis
  word ")"
  return raw

/-- The state of a button. -/
def source : Reader ButtonSource :=
  (do word "NullButton()"; return .nothing)
  <|> (do word "input.buttons["; return .button (← number))
  <|> (do return .axis (← call "AxisPositiveAsButton(") .positive)
  <|> (do return .axis (← call "AxisNegativeAsButton(") .negative)

/-- A place that is set to a value. -/
def place (front : String) (target : Target) {α : Type} (value : Reader α) : Reader (Nat × α) := do
  word front
  let index ← constant target ']'
  word " = "
  let a ← value
  word ";"
  return (index, a)

/-- A length that is set. -/
def length (front : String) (target : Target) : Reader Nat := do
  word front
  constant target ';'

/-- A command. -/
def command : Reader Command :=
  (do word "  *mapped = input;"; return .copy)
  <|> (do
    let (index, source) ← place "  mapped->buttons[" .button source
    return .setButton index source)
  <|> (do let (index, raw) ← place "  mapped->axes[" .axis axis; return .setAxis index raw)
  <|> (do return .setButtonsLength (← length "  mapped->buttonsLength = " .button))
  <|> (do return .setAxesLength (← length "  mapped->axesLength = " .axis))

end Reader

/-- The line that a command is written in. -/
def Command.line : Command → String
  | .copy => "  *mapped = input;"
  | .setButton index source =>
    "  mapped->buttons[" ++ constant .button index ++ "] = " ++ source.expression ++ ";"
  | .setAxis index raw => "  mapped->axes[" ++ constant .axis index ++ "] = " ++ rawAxis raw ++ ";"
  | .setButtonsLength length => "  mapped->buttonsLength = " ++ constant .button length ++ ";"
  | .setAxesLength length => "  mapped->axesLength = " ++ constant .axis length ++ ";"

/-- The command that a line is. -/
def Command.ofLine? (line : List Char) : Option Command :=
  match Reader.command line with
  | some (command, []) => some command
  | _ => none

/-! ## What is printed is read -/

theorem reads_number (n : Nat) : Reads Reader.number ((toString n).toList ++ [']']) n := by
  have hclose : ']' ∉ Nat.toDigits 10 n := fun hmem =>
    absurd (isDigit_of_mem_decimal hmem) (by decide)
  have h := (Reads.upTo hclose).bind (f := fun digits => Reader.known (Text.digits? digits))
    (Reads.known (digits?_decimal n))
  rwa [List.append_nil, ← String.toList_ofList (l := Nat.toDigits 10 n),
    ← Nat.toString_eq_ofList_toDigits] at h

/-- No constant holds a character in front of which constants end. -/
theorem plain_of_mem_constants :
    ∀ target, ∀ name ∈ constants target,
      ']' ∉ name.toList ∧ ';' ∉ name.toList ∧ '\n' ∉ name.toList := by
  intro target
  cases target <;> decide +kernel

theorem constant_eq_getElem {target : Target} {i : Nat} (h : i < (constants target).length) :
    constant target i = (constants target)[i] := by
  rw [constant, List.getD_eq_getElem?_getD, List.getElem?_eq_getElem h, Option.getD_some]

/-- A constant is worth its position. -/
theorem idxOf?_constant {target : Target} {i : Nat} (h : i < (constants target).length) :
    (constants target).idxOf? (constant target i) = some i := by
  have hnodup : (constants target).Nodup := by cases target <;> decide +kernel
  rw [constant_eq_getElem h, List.idxOf?_eq_some_iff]
  refine ⟨h, rfl, ?_⟩
  intro j hj heq
  exact Nat.ne_of_lt hj ((List.Nodup.getElem_inj_iff hnodup).mp heq)

theorem constant_mem {target : Target} {i : Nat} (h : i < (constants target).length) :
    constant target i ∈ constants target := by
  rw [constant_eq_getElem h]
  exact List.getElem_mem h

theorem reads_constant {target : Target} {i : Nat} {close : Char}
    (h : i < (constants target).length) (hclose : close = ']' ∨ close = ';') :
    Reads (Reader.constant target close) ((constant target i).toList ++ [close]) i := by
  obtain ⟨hbracket, hsemicolon, _⟩ := plain_of_mem_constants target _ (constant_mem h)
  have hnot : close ∉ (constant target i).toList := by
    rcases hclose with rfl | rfl
    · exact hbracket
    · exact hsemicolon
  have hread := (Reads.upTo hnot).bind
    (f := fun name => Reader.known ((constants target).idxOf? (String.ofList name)))
    (Reads.known (by rw [String.ofList_toList]; exact idxOf?_constant h))
  rwa [List.append_nil] at hread

theorem reads_axis (raw : Nat) : Reads Reader.axis (rawAxis raw).toList raw := by
  have h := (Reads.word "input.axes[").bind (f := fun _ => Reader.number) (reads_number raw)
  simpa [rawAxis, Reader.axis] using h

theorem reads_call (front : String) (raw : Nat) :
    Reads (Reader.call front) (front.toList ++ ((rawAxis raw).toList ++ ")".toList)) raw :=
  (Reads.word front).bind ((reads_axis raw).bind ((Reads.word ")").map fun _ => raw))

theorem reads_source (source : ButtonSource) :
    Reads Reader.source source.expression.toList source := by
  -- the alternatives begin with different words, so those before the right one find nothing
  have hcall : ∀ front raw : String, (front ++ raw ++ ")").toList
      = front.toList ++ (raw.toList ++ ")".toList) := by simp
  cases source with
  | nothing => exact Reads.orElse_left ((Reads.word "NullButton()").map _) _
  | button raw =>
      have htext : ("input.buttons[" ++ toString raw ++ "]").toList
          = "input.buttons[".toList ++ ((toString raw).toList ++ [']']) := by simp
      show Reads _ ("input.buttons[" ++ toString raw ++ "]").toList _
      rw [htext]
      exact Reads.orElse_right (fails_of_word fun _ => rfl) (Reads.orElse_left
        ((Reads.word "input.buttons[").bind ((reads_number raw).map _)) _)
  | axis raw direction =>
      cases direction with
      | positive =>
          show Reads _ ("AxisPositiveAsButton(" ++ rawAxis raw ++ ")").toList _
          rw [hcall]
          exact Reads.orElse_right (fails_of_word fun _ => rfl)
            (Reads.orElse_right (fails_of_word fun _ => rfl)
              (Reads.orElse_left ((reads_call _ raw).map _) _))
      | negative =>
          show Reads _ ("AxisNegativeAsButton(" ++ rawAxis raw ++ ")").toList _
          rw [hcall]
          exact Reads.orElse_right (fails_of_word fun _ => rfl)
            (Reads.orElse_right (fails_of_word fun _ => rfl)
              (Reads.orElse_right (Fails.bind (fails_of_word fun _ => rfl))
                ((reads_call _ raw).map _)))

/-- The command has a constant to write for its place or its length. -/
def Command.Named : Command → Prop
  | .copy => True
  | .setButton index _ => index < (constants .button).length
  | .setAxis index _ => index < (constants .axis).length
  | .setButtonsLength length => length < (constants .button).length
  | .setAxesLength length => length < (constants .axis).length

theorem reads_place (front : String) {target : Target} {i : Nat} {value : Reader α}
    {text : List Char} {a : α} (hi : i < (constants target).length) (h : Reads value text a) :
    Reads (Reader.place front target value)
      (front.toList ++ (((constant target i).toList ++ [']'])
        ++ (" = ".toList ++ (text ++ ";".toList)))) (i, a) :=
  (Reads.word front).bind ((reads_constant hi (Or.inl rfl)).bind
    ((Reads.word " = ").bind (h.bind ((Reads.word ";").map fun _ => (i, a)))))

theorem reads_length (front : String) {target : Target} {i : Nat}
    (hi : i < (constants target).length) :
    Reads (Reader.length front target) (front.toList ++ ((constant target i).toList ++ [';'])) i :=
  (Reads.word front).bind (reads_constant hi (Or.inr rfl))

theorem reads_command {c : Command} (h : c.Named) : Reads Reader.command c.line.toList c := by
  have hplace : ∀ front name value : String, (front ++ name ++ "] = " ++ value ++ ";").toList
      = front.toList ++ ((name.toList ++ [']'])
        ++ (" = ".toList ++ (value.toList ++ ";".toList))) := by simp
  have hlength : ∀ front name : String, (front ++ name ++ ";").toList
      = front.toList ++ (name.toList ++ [';']) := by simp
  cases c with
  | copy => exact Reads.orElse_left ((Reads.word "  *mapped = input;").map _) _
  | setButton index source =>
      show Reads _ ("  mapped->buttons[" ++ _ ++ "] = " ++ _ ++ ";").toList _
      rw [hplace]
      exact Reads.orElse_right (fails_of_word fun _ => rfl)
        (Reads.orElse_left ((reads_place _ h (reads_source source)).map fun p =>
          Command.setButton p.1 p.2) _)
  | setAxis index raw =>
      show Reads _ ("  mapped->axes[" ++ _ ++ "] = " ++ _ ++ ";").toList _
      rw [hplace]
      exact Reads.orElse_right (fails_of_word fun _ => rfl)
        (Reads.orElse_right (Fails.bind (fails_of_word fun _ => rfl))
          (Reads.orElse_left ((reads_place _ h (reads_axis raw)).map fun p =>
            Command.setAxis p.1 p.2) _))
  | setButtonsLength length =>
      show Reads _ ("  mapped->buttonsLength = " ++ _ ++ ";").toList _
      rw [hlength]
      exact Reads.orElse_right (fails_of_word fun _ => rfl)
        (Reads.orElse_right (Fails.bind (fails_of_word fun _ => rfl))
          (Reads.orElse_right (Fails.bind (fails_of_word fun _ => rfl))
            (Reads.orElse_left ((reads_length _ h).map _) _)))
  | setAxesLength length =>
      show Reads _ ("  mapped->axesLength = " ++ _ ++ ";").toList _
      rw [hlength]
      exact Reads.orElse_right (fails_of_word fun _ => rfl)
        (Reads.orElse_right (Fails.bind (fails_of_word fun _ => rfl))
          (Reads.orElse_right (Fails.bind (fails_of_word fun _ => rfl))
            (Reads.orElse_right (Fails.bind (fails_of_word fun _ => rfl))
              ((reads_length _ h).map _))))

end PadMapping.Proofs
