import PadMapping.Text.Blank
import PadMapping.View.Basic

/-!
# Settings

What the user can settle in a file: how often and how the device is read, which device it is,
where results are saved, and what is logged where. What the file leaves out is taken from the
defaults. Settings are checked before they are used, so that the program runs only with a time
between polls that is not zero and a threshold that is strictly between none and full
deflection.
-/

namespace PadMapping

/-- How the device is read. -/
structure PollSettings where
  /-- Milliseconds between two polls. -/
  interval : Nat
  /-- The deflection from which an axis counts as pushed. -/
  threshold : Single
deriving DecidableEq, Repr

/-- Which device is read. -/
structure ControllerSettings where
  /-- The path of the device; if blank, the first gamepad is taken. -/
  devicePath : String
  /-- Milliseconds between two attempts to find a device. -/
  rescanInterval : Nat
deriving DecidableEq, Repr

/-- Whether and where results are saved. -/
structure SavingSettings where
  enabled : Bool
  folder : String
deriving DecidableEq, Repr

/-- What is logged where. -/
structure LoggingSettings where
  level : String
  /-- The log file; if blank, there is none. -/
  file : String
deriving DecidableEq, Repr

/-- All settings. -/
structure Settings where
  poll : PollSettings
  controller : ControllerSettings
  saving : SavingSettings
  logging : LoggingSettings
deriving DecidableEq, Repr

/-- A setting that is not allowed. -/
inductive Settings.Rule where
  | interval
  | threshold
  | rescanInterval
  | folder
  | level
deriving DecidableEq, Repr

namespace Settings

/-- The levels of logging. -/
def levels : List String := ["trace", "debug", "info", "warn", "error"]

/-- The wording shown for a setting that is not allowed. -/
def Rule.message : Rule → String
  | .interval => "interval_ms must be between 1 and 1000"
  | .threshold => "threshold must be greater than 0.0 and less than 1.0"
  | .rescanInterval => "rescan_interval_ms must be between 1 and 60000"
  | .folder => "export output_dir cannot be empty when enabled"
  | .level => "log level must be one of: " ++ ", ".intercalate levels

/-- The settings that hold where the file says nothing else. -/
def standard : Settings where
  poll := ⟨50, defaultThreshold⟩
  controller := ⟨"", 1000⟩
  saving := ⟨true, "./mappings"⟩
  logging := ⟨"info", ""⟩

/-- Whether a rule is kept. -/
def keeps (s : Settings) : Rule → Bool
  | .interval => decide (1 ≤ s.poll.interval) && decide (s.poll.interval ≤ 1000)
  | .threshold =>
    (Binary.number 0).lt s.poll.threshold && s.poll.threshold.lt (Binary.number 1)
  | .rescanInterval =>
    decide (1 ≤ s.controller.rescanInterval) && decide (s.controller.rescanInterval ≤ 60000)
  | .folder => !s.saving.enabled || !(Text.trimmed s.saving.folder.toList).isEmpty
  | .level => levels.contains s.logging.level

/-- The rules in the order in which they are checked. -/
def rules : List Rule := [.interval, .threshold, .rescanInterval, .folder, .level]

/-- Checks the settings; the first rule that is not kept is reported. -/
def validate (s : Settings) : Except Rule Unit :=
  match rules.find? fun rule => !s.keeps rule with
  | some rule => .error rule
  | none => .ok ()

/-- The path of the device, if one is given. -/
def devicePath? (s : Settings) : Option String :=
  let path := Text.trim s.controller.devicePath
  if path.isEmpty then none else some path

/-- How the view behaves under these settings. -/
def viewOptions (s : Settings) : View.Options where
  interval := s.poll.interval
  threshold := s.poll.threshold
  folder := if s.saving.enabled then some s.saving.folder else none

end Settings

end PadMapping
