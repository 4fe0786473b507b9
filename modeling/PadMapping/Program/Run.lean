import PadMapping.Program.Basic
import PadMapping.Program.Dialog

/-!
# Running the program

A whole run of the program: its command line is read, the settings are loaded, the log is
opened, and the command is carried out. What it prints is found on the screen, and what it saves
among the files.
-/

namespace PadMapping.Program

/-- Reads a file. -/
def source (path : String) (host : Host) : Source := ⟨path, host.files.read path⟩

/-- Opens the log, if there is to be one. -/
def openLog (s : Settings) (host : Host) : Host × Except FileFault Unit :=
  match s.logFile? with
  | none => (host, .ok ())
  | some log =>
    let (files, outcome) := log.openIn host.files
    ({ host with files }, outcome)

/-- Prints text and ends. -/
def print (text : String) (host : Host) : Host × Ending :=
  let (screen, outcome) := host.screen.writeText text
  ({ host with screen }, match outcome with
    | .ok () => .success
    | .error fault => .failure (.aborted fault))

/-- Prints what a command gives, or fails and prints nothing. -/
def printResult (result : Except Fault String) (host : Host) : Host × Ending :=
  match result with
  | .ok text => print text host
  | .error fault => (host, .failure fault)

/-- Carries out the mapping. -/
def runMapping (s : Settings) (world : InputDirectory) (happenings : List Happening)
    (host : Host) : Host × Ending :=
  let ended := Dialog.run s world happenings host
  (ended.surroundings, match ended.result with
    | .ok () => .success
    | .error fault => .failure (.command (.ofView fault)))

/-- Carries out a command. -/
def runCommand (command : Command) (s : Settings) (world : InputDirectory)
    (happenings : List Happening) (host : Host) : Host × Ending :=
  match command with
  | .map => runMapping s world happenings host
  | .listDevices => printResult (listing world) host
  | .codegen path name => printResult (snippets (source path host) name) host

/-- Does what the command line asks for. -/
def runArguments (a : Arguments) (world : InputDirectory) (happenings : List Happening)
    (host : Host) : Host × Ending :=
  match settings (a.config.map (source · host)) a.device with
  | .error fault => (host, .failure fault)
  | .ok s =>
    match openLog s host with
    | (host, .error fault) => (host, .failure (.aborted fault))
    | (host, .ok ()) => runCommand a.command s world happenings host

/-- Runs the program. -/
def run (arguments : List String) (world : InputDirectory) (happenings : List Happening)
    (host : Host) : Host × Ending :=
  match Arguments.parse arguments with
  | .misuse => (host, .misuse)
  | .help => print helpText host
  | .version => print versionText host
  | .run a => runArguments a world happenings host

end PadMapping.Program
