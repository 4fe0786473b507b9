import PadMapping.Files.Fault
import PadMapping.Text.Blank
import PadMapping.Text.Lines
import PadMapping.Text.Utf8
import PadMapping.View.Frame

/-!
# The terminal

Frames are written as blocks of lines, and actions are read as words, one to a line. Each block
begins with an empty line and ends with the line that shows the possible actions.
-/

namespace PadMapping

/-! ## Writing frames -/

namespace Frame

/-- The line that shows the possible actions. -/
def actionLine (a : Availability) : String :=
  let hints := [(a.skip, " [s]kip"), (a.back, " [b]ack"), (a.reset, " [r]eset"), (a.done, " [d]one")]
  "Actions:" ++ String.join ((hints.filter (·.1)).map (·.2)) ++ " [q]uit"

/-- The lines of a frame. -/
def lines (f : Frame) : List String :=
  ["", "Device: " ++ f.connection]
    ++ (if f.instruction.isEmpty then [] else ["> " ++ f.instruction])
    ++ f.rows.map (fun row => "  " ++ row.describe)
    ++ (match f.result with
      | none => []
      | some e => [e.pretty])
    ++ [actionLine f.actions]

/-- The text of a frame. -/
def text (f : Frame) : String := String.join (f.lines.map (· ++ "\n"))

/-- The pieces in which a frame is written. -/
def pieces (f : Frame) : List String :=
  ["\n", "Device: ", f.connection, "\n"]
    ++ (if f.instruction.isEmpty then [] else ["> ", f.instruction, "\n"])
    ++ f.rows.flatMap (fun row => ["  ", row.describe, "\n"])
    ++ (match f.result with
      | none => []
      | some e => [e.pretty, "\n"])
    ++ [actionLine f.actions, "\n"]

end Frame

/-- Where output goes. -/
structure Sink where
  /-- What has arrived. -/
  content : List UInt8
  /-- How many bytes can still arrive, if there is a limit. -/
  room : Option Nat
deriving DecidableEq, Repr

namespace Sink

/-- A sink in which nothing has arrived yet. -/
def empty (room : Option Nat) : Sink := ⟨[], room⟩

/-- Writes bytes. If there is not enough room for them, those that fit arrive all the same. -/
def write (s : Sink) (bytes : List UInt8) : Sink × Except FileFault Unit :=
  match s.room with
  | none => ({ s with content := s.content ++ bytes }, .ok ())
  | some room =>
    ({ content := s.content ++ bytes.take room, room := some (room - bytes.length) },
      if bytes.length ≤ room then .ok () else .error .full)

/-- Writes text. -/
def writeText (s : Sink) (text : String) : Sink × Except FileFault Unit :=
  s.write text.toUTF8.toList

/-- Writes texts one after another, up to the first that fails. -/
def writeEach (s : Sink) : List String → Sink × Except FileFault Unit
  | [] => (s, .ok ())
  | text :: rest =>
    match s.writeText text with
    | (s, .ok ()) => s.writeEach rest
    | (s, .error fault) => (s, .error fault)

/-- Draws a frame. -/
def draw (f : Frame) (s : Sink) : Sink × Except FileFault Unit := s.writeEach f.pieces

end Sink

/-! ## Reading actions -/

/-- The action for which a word stands. -/
def Action.ofWord? : String → Option Action
  | "s" | "skip" => some .skip
  | "r" | "reset" => some .reset
  | "b" | "back" => some .back
  | "d" | "done" | "finish" => some .done
  | "q" | "quit" | "exit" => some .quit
  | _ => none

/-- The action in a line: a word of either case, with or without blanks around it. -/
def Action.ofLine? (line : String) : Option Action :=
  ofWord? (String.ofList ((Text.trimmed line.toList).map Char.toLower))

/-- What a line of input leads to. -/
inductive Input where
  /-- The line is no text, and no more lines are read. -/
  | unreadable
  /-- The action of the line, if there is one. -/
  | line (action : Option Action)
deriving DecidableEq, Repr

/-- Reads a line of input. -/
def Input.ofBytes (line : List UInt8) : Input :=
  match Text.decode? line with
  | none => .unreadable
  | some text => .line (Action.ofLine? text)

/-- The actions in lines of input. The end of input is as good as quitting, but a line that is
no text only ends the reading. -/
def actionsOfLines : List (List UInt8) → List Action
  | [] => [.quit]
  | line :: rest =>
    match Input.ofBytes line with
    | .unreadable => []
    | .line none => actionsOfLines rest
    | .line (some action) => action :: actionsOfLines rest

/-- The actions in an input. -/
def actionsOf (input : List UInt8) : List Action := actionsOfLines (Text.lines input)

end PadMapping
