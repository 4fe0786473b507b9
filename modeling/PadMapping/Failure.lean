import PadMapping.Device.Gamepad
import PadMapping.Settings.Reader
import PadMapping.Snippet.Printer
import PadMapping.Export.Store

/-!
# Failures

Everything that can go wrong, by the part of the program in which it does, and the line in which
it is reported. Most parts put a heading in front of the cause; two have one wording for all.
-/

namespace PadMapping

/-- The part of the program in which something went wrong. -/
inductive Failure.Area where
  | session
  | settings
  | device
  | noGamepad
  | snippet
  | json
  | file
deriving DecidableEq, Repr

/-- The line for a cause in some part of the program. -/
def Failure.Area.report (area : Failure.Area) (cause : String) : String :=
  match area with
  | .session => Session.Fault.finished.message
  | .settings => "Configuration error: " ++ cause
  | .device => "Controller error: " ++ cause
  | .noGamepad => "No gamepad found"
  | .snippet => "Codegen error: " ++ cause
  | .json => "JSON error: " ++ cause
  | .file => "I/O error: " ++ cause

/-- Something that went wrong. -/
inductive Failure where
  | session (fault : Session.Fault)
  | settings (problem : Settings.Problem)
  | scan (fault : ScanFault)
  | snippet (problem : Snippet.Problem)
  | json (problem : Json.Problem)
  | file (fault : FileFault)
deriving DecidableEq, Repr

namespace Failure

/-- Where it went wrong. -/
def area : Failure → Area
  | .session _ => .session
  | .settings _ => .settings
  | .scan _ => .device
  | .snippet _ => .snippet
  | .json _ => .json
  | .file _ => .file

/-- What went wrong. -/
def cause : Failure → String
  | .session fault => fault.message
  | .settings problem => problem.message?.getD "malformed document"
  | .scan fault => fault.message
  | .snippet problem => problem.message
  | .json problem => problem.message?.getD "malformed text"
  | .file fault => fault.message

/-- The line in which it is reported. -/
def message (f : Failure) : String := f.area.report f.cause

/-- A failed loading of an export. -/
def ofLoad : LoadFault → Failure
  | .file fault => .file fault
  | .json problem => .json problem

/-- A failed event of the view. -/
def ofView : View.Fault → Failure
  | .session fault => .session fault
  | .display fault => .file fault

/-- A failed loading of settings. -/
def ofSettings : Settings.LoadFault → Failure
  | .file fault => .file fault
  | .settings problem => .settings problem

end Failure

end PadMapping
