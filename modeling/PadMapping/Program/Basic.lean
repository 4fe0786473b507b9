import PadMapping.Failure
import PadMapping.Program.Arguments
import PadMapping.Settings.LogFile

/-!
# What the program is asked for

The settings that hold for a command line, and the two commands whose output is decided at once.
Such a command gives all of its output, or fails and gives none.
-/

namespace PadMapping.Program

/-- A file that is to be read, with what came of that. -/
structure Source where
  path : String
  content : Except FileFault ByteArray

/-- Why the program fails. -/
inductive Fault where
  /-- The settings at a path cannot be loaded. -/
  | settings (path : String) (cause : Settings.LoadFault)
  /-- The export at a path cannot be loaded. -/
  | loading (path : String) (cause : LoadFault)
  /-- The command itself failed. -/
  | command (cause : Failure)
  /-- The log cannot be opened or the output cannot be written, and the program breaks off. -/
  | aborted (cause : FileFault)
deriving DecidableEq, Repr

/-- The report of a failure: what the program was about to do, then the cause. -/
def Fault.report : Fault → String
  | .settings path cause =>
    "Error: Failed to load config from " ++ path ++ causedBy (Failure.ofSettings cause)
  | .loading path cause => "Error: Failed to read export " ++ path ++ causedBy (Failure.ofLoad cause)
  | .command cause => "Error: " ++ cause.message
  | .aborted cause => "aborted: " ++ cause.message
where
  causedBy (f : Failure) : String := "\n\nCaused by:\n    " ++ f.message

/-- How the program ends. -/
inductive Ending where
  | success
  /-- The command line made no sense. -/
  | misuse
  | failure (fault : Fault)
deriving DecidableEq, Repr

/-- The exit code of the program. -/
def Ending.exitCode : Ending → Nat
  | .success => 0
  | .misuse => 2
  | .failure (.aborted _) => 101
  | .failure _ => 1

/-- Loads the settings in a file. -/
def Source.loadSettings (source : Source) : Except Settings.LoadFault Settings :=
  match source.content with
  | .error fault => .error (.file fault)
  | .ok content => Settings.ofBytes content

/-- Loads the export in a file. -/
def Source.loadExport (source : Source) : Except LoadFault Export :=
  match source.content with
  | .error fault => .error (.file fault)
  | .ok content => Export.ofBytes content

/-- Puts the device of the command line in place of any other. -/
def withDevice (device : Option String) (s : Settings) : Settings :=
  match device with
  | none => s
  | some devicePath => { s with controller := { s.controller with devicePath } }

/-- The settings that hold: those of a file or the defaults, with the device of the command
line. -/
def settings (config : Option Source) (device : Option String) : Except Fault Settings :=
  match config with
  | none => .ok (withDevice device .standard)
  | some source =>
    match source.loadSettings with
    | .error cause => .error (.settings source.path cause)
    | .ok s => .ok (withDevice device s)

/-- The snippets for an export. -/
def snippets (source : Source) (name : String) : Except Fault String :=
  match source.loadExport with
  | .error cause => .error (.loading source.path cause)
  | .ok e => (Snippet.render e name).mapError fun problem => .command (.snippet problem)

/-- One line for each gamepad, or one that says that there is none. -/
def describeGamepads (gamepads : List GamepadInfo) : String :=
  if gamepads.isEmpty then "No gamepads found\n"
  else String.join (gamepads.map fun gamepad => gamepad.path ++ "\t" ++ gamepad.id ++ "\n")

/-- The list of the gamepads. -/
def listing (world : InputDirectory) : Except Fault String :=
  match world.listGamepads with
  | .error fault => .error (.command (.scan fault))
  | .ok gamepads => .ok (describeGamepads gamepads)

/-- The version of the program. -/
def versionText : String := "gamepad-mapper 0.1.0\n"

/-- The summary of the command line. -/
def helpText : String :=
  "Map physical gamepad buttons and axes to the standard layout

Usage: gamepad-mapper [OPTIONS] [COMMAND]

Commands:
  map           Run the interactive mapping (default)
  list-devices  List detected gamepads
  codegen       Generate mapping-table code from an exported mapping
  help          Print this message or the help of the given subcommand(s)

Options:
  -c, --config <CONFIG>  Config file path (defaults are used when omitted)
  -d, --device <DEVICE>  evdev device to map instead of auto-detecting
  -h, --help             Print help
  -V, --version          Print version
"

end PadMapping.Program
