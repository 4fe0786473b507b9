import PadMapping.Program.Run
import Std.Time.Zoned

/-!
# The program on a system

The program as it is started by the user: it reads and writes the files of the system, takes
lines from the input as they come, and polls by the clock. Everything that it decides is decided
elsewhere.

Devices are asked for their state by requests that are not made here, so no node of the input
directory is ever opened, and each poll finds no device.
-/

namespace PadMapping.System

/-- The fault behind an error of the system, if it is one of those that have a wording. -/
def faultOf? : IO.Error → Option FileFault
  | .noFileOrDirectory .. => some .notFound
  | .alreadyExists .. => some .alreadyExists
  | .inappropriateType _ code _ => some (if code = 20 then .notDirectory else .isDirectory)
  | .invalidArgument _ 36 _ => some .nameTooLong
  | _ => none

/-- Runs an action; a fault that has a wording is given back. -/
def attempt {α : Type} (action : IO α) : IO (Except FileFault α) :=
  try
    return .ok (← action)
  catch error =>
    match faultOf? error with
    | some fault => return .error fault
    | none => throw error

/-- Reads a file. -/
def source (path : String) : IO Program.Source := do
  return ⟨path, ← attempt (IO.FS.readBinFile path)⟩

/-- The input directory. -/
def inputDirectory : IO InputDirectory := do
  match ← attempt (IO.FS.readBinFile InputDirectory.path) with
  | .ok _ => return .empty .file
  | .error .notFound => return .empty .missing
  | .error _ => return .empty .directory

/-! ## Logging -/

/-- Where log lines go, and from which level on. -/
structure Log where
  stream : IO.FS.Stream
  level : String

/-- Writes a line to the log. -/
def Log.write (log : Log) (level text : String) : IO Unit := do
  if Settings.levels.idxOf log.level ≤ Settings.levels.idxOf level then
    log.stream.putStrLn (level ++ ": " ++ text)
    log.stream.flush

/-- Opens the log file, or takes the error output. -/
def openLog (s : Settings) : IO Log := do
  match s.logFile? with
  | none => return ⟨← IO.getStderr, s.logging.level⟩
  | some file =>
    IO.FS.createDirAll file.directory
    let handle ← IO.FS.Handle.mk file.path .append
    return ⟨IO.FS.Stream.ofHandle handle, s.logging.level⟩

/-! ## Saving -/

/-- The present moment at this place. -/
def now : IO Moment := do
  let t ← Std.Time.PlainDateTime.now
  return {
    year := t.date.year.toInt.toNat
    month := t.date.month.toNat
    day := t.date.day.toNat
    hour := t.time.hour.toNat
    minute := t.time.minute.toNat
    second := t.time.second.toNat
    millisecond := t.time.nanosecond.toNat / 1000000 }

/-- Writes text to the first file of those numbered from `n` on that is not there yet. -/
partial def writeNew (folder stamp text : String) (n : Nat) : IO String := do
  let path := Export.filePath folder stamp n
  match ← attempt (IO.FS.Handle.mk path .writeNew) with
  | .error .alreadyExists => writeNew folder stamp text (n + 1)
  | .error fault => throw (IO.userError fault.message)
  | .ok handle =>
    handle.putStr text
    return path

/-- Saves an export. A failure goes to the log. -/
def save (log : Log) (folder : String) (e : Export) : IO Unit :=
  try
    IO.FS.createDirAll folder
    let path ← writeNew folder (← now).stamp e.pretty 0
    log.write "info" ("Saved mapping for '" ++ e.deviceId ++ "' to " ++ path)
  catch error => log.write "warn" ("Failed to save mapping: " ++ toString error)

/-! ## The mapping -/

/-- A line of input without its ending, or none at the end of the input. -/
partial def readLine (input : IO.FS.Stream) (line : List UInt8) : IO (Option (List UInt8)) := do
  match (← input.read 1).toList with
  | [] => return if line.isEmpty then none else some line.reverse
  | b :: _ =>
    if b = Text.lineFeed then return some (Text.chomp line.reverse)
    else readLine input (b :: line)

/-- A line of input that is being waited for. -/
abbrev Pending := Task (Except IO.Error (Option (List UInt8)))

/-- Starts to wait for a line of input. -/
def await : IO Pending := do
  IO.asTask (readLine (← IO.getStdin) []) Task.Priority.dedicated

/-- An outlet that leaves drawing and saving for later. -/
def later : Outlet Unit := ⟨fun _ s => (s, .ok ()), fun _ _ s => (s, .ok ())⟩

/-- Draws and saves what an event led to. -/
def carryOut (log : Log) (folder : Option String) (response : Response) :
    IO (Except View.Fault Unit) := do
  if let some frame := response.frame then
    let stdout ← IO.getStdout
    stdout.putStr frame.text
    stdout.flush
  if let (some folder, some e) := (folder, response.attempt) then save log folder e
  return response.result

/-- Reacts to events until the user quits or something goes wrong. The next poll is at `due`. -/
partial def loop (log : Log) (world : InputDirectory) (view : View) (gamepad : Gamepad)
    (pending : Option Pending) (due : Nat) : IO (Except View.Fault Unit) := do
  let arrived ← pending.filterM fun task => IO.hasFinished task
  match arrived.map Task.get with
  | some (.ok none) => return .ok ()
  | some (.error _) => loop log world view gamepad none due
  | some (.ok (some line)) =>
    match Input.ofBytes line with
    | .unreadable => loop log world view gamepad none due
    | .line none => loop log world view gamepad (some (← await)) due
    | .line (some .quit) => return .ok ()
    | .line (some action) =>
      let (view, _, response) := view.act later action ()
      match ← carryOut log view.options.folder response with
      | .error fault => return .error fault
      | .ok () => loop log world view gamepad (some (← await)) due
  | none =>
    let time ← IO.monoMsNow
    if time < due then
      IO.sleep (min 5 (due - time)).toUInt32
      loop log world view gamepad pending due
    else
      let (gamepad, reading) := gamepad.poll world time
      let (view, _, response) := view.tick later reading ()
      match ← carryOut log view.options.folder response with
      | .error fault => return .error fault
      | .ok () => loop log world view gamepad pending (due + view.options.period)

/-- Carries out the mapping. -/
def runMapping (log : Log) (s : Settings) : IO Program.Ending := do
  let world ← inputDirectory
  let view := View.ofSession (.start standardSteps) s.viewOptions
  let gamepad := Gamepad.start s.devicePath? s.controller.rescanInterval
  log.write "info" "Type s/b/r/d and Enter to skip, go back, reset or finish; q to quit"
  let (view, _, response) := view.refresh later ()
  let result ← match ← carryOut log view.options.folder response with
    | .error fault => pure (.error fault)
    | .ok () => loop log world view gamepad (some (← await)) (← IO.monoMsNow)
  match result with
  | .error fault => return .failure (.command (.ofView fault))
  | .ok () => return .success

/-! ## The command line -/

/-- Prints what a command gives, if it does not fail. -/
def printResult : Except Program.Fault String → IO Program.Ending
  | .ok text => do
    IO.print text
    return .success
  | .error fault => return .failure fault

/-- Does what the command line asks for. -/
def runArguments (a : Arguments) : IO Program.Ending := do
  match Program.settings (← a.config.mapM source) a.device with
  | .error fault => return .failure fault
  | .ok s =>
    match ← attempt (openLog s) with
    | .error fault => return .failure (.aborted fault)
    | .ok log =>
      match a.command with
      | .map => runMapping log s
      | .listDevices => printResult (Program.listing (← inputDirectory))
      | .codegen path name => printResult (Program.snippets (← source path) name)

/-- Runs the program. -/
def run (arguments : List String) : IO Program.Ending := do
  match Arguments.parse arguments with
  | .misuse =>
    IO.eprint Program.helpText
    return .misuse
  | .help => printResult (.ok Program.helpText)
  | .version => printResult (.ok Program.versionText)
  | .run a => runArguments a

end PadMapping.System

/-- Runs the program and reports a failure on the error output. -/
def main (arguments : List String) : IO UInt32 := do
  let ending ← PadMapping.System.run arguments
  if let .failure fault := ending then IO.eprintln fault.report
  return ending.exitCode.toUInt32
