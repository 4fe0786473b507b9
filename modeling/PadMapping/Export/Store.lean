import PadMapping.Export.Reader
import PadMapping.Files.Tree
import PadMapping.Text.Number

/-!
# Saving and loading exports

An export is saved in a file of its own whose name holds the time. No file is ever written
over: if the name is taken, a number is added to it, the lowest one that makes it free.
-/

namespace PadMapping

/-- A date with a time of day, as a calendar and a clock show it. -/
structure Moment where
  year : Nat
  month : Nat
  day : Nat
  hour : Nat
  minute : Nat
  second : Nat
  millisecond : Nat
deriving DecidableEq, Repr

/-- How a moment stands in the names of files: such that later names come later in order. -/
def Moment.stamp (m : Moment) : String :=
  let digits := fun width n => String.ofList (Text.padded 10 width n)
  digits 4 m.year ++ digits 2 m.month ++ digits 2 m.day ++ "-"
    ++ digits 2 m.hour ++ digits 2 m.minute ++ digits 2 m.second ++ "-" ++ digits 3 m.millisecond

/-- What can go wrong when an export is loaded. -/
inductive LoadFault where
  | file (fault : FileFault)
  | json (problem : Json.Problem)
deriving DecidableEq, Repr

namespace Export

/-- The name of a saved export: the first for its time, or the one with a number. -/
def fileName (stamp : String) : Nat → String
  | 0 => "mapping-" ++ stamp ++ ".json"
  | n => "mapping-" ++ stamp ++ "-" ++ toString n ++ ".json"

/-- The path of the file with a number. -/
def filePath (folder stamp : String) (n : Nat) : String := Path.join folder (fileName stamp n)

/-- Writes a file of its own for a content: the first of those numbered from `n` on that is not
there yet, if it is among the next `attempts`. -/
def writeNew (folder stamp : String) (content : ByteArray) (tree : FileTree) :
    (attempts n : Nat) → FileTree × Except FileFault String
  | 0, _ => (tree, .error .alreadyExists)
  | attempts + 1, n =>
    match tree.create (filePath folder stamp n) content with
    | .ok tree => (tree, .ok (filePath folder stamp n))
    | .error .alreadyExists => writeNew folder stamp content tree attempts (n + 1)
    | .error fault => (tree, .error fault)

/-- How many numbers are tried: all those of 32 bits. -/
def fileNumbers : Nat := Nat.pow 2 32

/-- Saves an export in a folder, which is made if it is not there, and gives the path of the
file. Where the folder cannot be made no file is written. -/
def save (e : Export) (folder stamp : String) (tree : FileTree) :
    FileTree × Except FileFault String :=
  match tree.makeDirectories folder with
  | (tree, .error fault) => (tree, .error fault)
  | (tree, .ok _) => writeNew folder stamp e.pretty.toUTF8 tree fileNumbers 0

/-- Loads an export from the content of a file. -/
def ofBytes (content : ByteArray) : Except LoadFault Export :=
  match String.fromUTF8? content with
  | none => .error (.file .notText)
  | some text => (parse text).mapError .json

/-- Loads an export from a file. -/
def load (path : String) (tree : FileTree) : Except LoadFault Export :=
  match tree.read path with
  | .error fault => .error (.file fault)
  | .ok content => ofBytes content

end Export

end PadMapping
