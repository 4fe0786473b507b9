import PadMapping.Files.Tree
import PadMapping.Settings.Basic

/-!
# The log file

The path of the log file is taken apart into a directory and a name. If the path does not end
with a name, the log has a name of its own. The directory is made if it is not there, and a log
that is there already is continued.
-/

namespace PadMapping

/-- A log file by its directory and name. -/
structure LogFile where
  directory : String
  name : String
deriving DecidableEq, Repr

namespace LogFile

/-- The name of a log file if the path gives none. -/
def defaultName : String := "gamepad-mapper.log"

/-- Takes a path apart. Two dots at the end are no name, but they do not lead out of what comes in
front of them either. -/
def ofPath (path : String) : LogFile :=
  match Path.split path with
  | (directory, none) | (directory, some "..") => ⟨directory, defaultName⟩
  | (directory, some name) => ⟨directory, name⟩

/-- The path of a log file. -/
def path (log : LogFile) : String := Path.join log.directory log.name

/-- Opens the log file. -/
def openIn (log : LogFile) (tree : FileTree) : FileTree × Except FileFault Unit :=
  match Path.check log.path with
  | .error fault => (tree, .error fault)
  | .ok () =>
    match tree.makeDirectories log.directory with
    | (tree, .error fault) => (tree, .error fault)
    | (tree, .ok directory) =>
      if Path.maxName < log.name.utf8ByteSize then (tree, .error .nameTooLong)
      else
        let l := directory.child log.name
        match tree.present l with
        | .directory => (tree, .error .isDirectory)
        | .file => (tree, .ok ())
        | .missing => (tree.add l (.file .empty), .ok ())

end LogFile

/-- The log file, if the settings name one. -/
def Settings.logFile? (s : Settings) : Option LogFile :=
  let path := Text.trim s.logging.file
  if path.isEmpty then none else some (.ofPath path)

end PadMapping
