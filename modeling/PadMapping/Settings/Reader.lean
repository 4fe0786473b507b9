import PadMapping.Files.Tree
import PadMapping.Mismatch
import PadMapping.Settings.Basic
import PadMapping.Toml.Document

/-!
# Reading settings

Settings are read from a TOML document, from its values in the order in which they stand there.
Keys that mean nothing are passed over. A group of settings is a table, or an array of its
settings in their order, of which the last ones may be missing and more than enough may be
there.
-/

namespace PadMapping

open Toml (Value Table)

/-- How floating-point numbers are written in messages: always positionally. A tie goes away from
zero. -/
def Toml.messageLayout : Decimal.Layout := ⟨.up, none⟩

/-- What is wrong with a document of settings. -/
inductive Settings.Problem where
  /-- It is no TOML document. -/
  | malformed
  | mismatch (m : Mismatch)
  | rule (r : Settings.Rule)
deriving DecidableEq, Repr

/-- The wording shown for a problem; none for a text that is no TOML document. -/
def Settings.Problem.message? : Settings.Problem → Option String
  | .malformed => none
  | .mismatch m => some (m.message Toml.messageLayout)
  | .rule r => some r.message

namespace Toml.Value

/-- What a value is, as far as messages show it. A date is read like a table. -/
def found : Value → Found
  | .text s => .text s
  | .integer n => .integer n
  | .float x => .float x
  | .boolean b => .boolean b
  | .time | .table _ => .map
  | .array _ => .sequence

/-- Reports a value of the wrong kind. -/
def mismatch {α : Type} (wanted : Wanted) (v : Value) : Except Mismatch α :=
  .error ⟨v.found, wanted⟩

/-- A text. -/
def asText : Value → Except Mismatch String
  | .text s => .ok s
  | v => v.mismatch .text

/-- A truth value. -/
def asBoolean : Value → Except Mismatch Bool
  | .boolean b => .ok b
  | v => v.mismatch .boolean

/-- A number of milliseconds. -/
def asMilliseconds (v : Value) : Except Mismatch Nat :=
  match v with
  | .integer (.ofNat n) => .ok n
  | _ => v.mismatch .milliseconds

/-- A threshold: an integer or a number of 64 bits, brought to 32 bits. -/
def asThreshold : Value → Except Mismatch Single
  | .integer n => .ok (.ofInt n)
  | .float x => .ok x.convert
  | v => v.mismatch .threshold

end Toml.Value

namespace Settings

/-- How a group of settings is read: its name, its keys in order, and what a value for one of
its keys does. -/
structure Group (α : Type) where
  name : String
  keys : List String
  read : String → Value → α → Except Mismatch α

namespace Group

variable {α : Type}

/-- Reads members of a table one after another. -/
def readMembers (g : Group α) (start : α) (members : Table) : Except Mismatch α :=
  members.foldlM (fun settings (key, v) => g.read key v settings) start

/-- Reads a group, beginning with the settings that hold where nothing else is said. -/
def readValue (g : Group α) (start : α) : Value → Except Mismatch α
  | .table members => g.readMembers start members
  | .array items => g.readMembers start (g.keys.zip items)
  | .time => .ok start
  | v => v.mismatch (.record g.name)

end Group

/-- How the device is read. -/
def pollGroup : Group PollSettings where
  name := "PollConfig"
  keys := ["interval_ms", "threshold"]
  read key v settings := do
    match key with
    | "interval_ms" => return { settings with interval := ← v.asMilliseconds }
    | "threshold" => return { settings with threshold := ← v.asThreshold }
    | _ => return settings

/-- Which device is read. -/
def controllerGroup : Group ControllerSettings where
  name := "ControllerConfig"
  keys := ["device_path", "rescan_interval_ms"]
  read key v settings := do
    match key with
    | "device_path" => return { settings with devicePath := ← v.asText }
    | "rescan_interval_ms" => return { settings with rescanInterval := ← v.asMilliseconds }
    | _ => return settings

/-- Whether and where results are saved. -/
def savingGroup : Group SavingSettings where
  name := "ExportConfig"
  keys := ["enabled", "output_dir"]
  read key v settings := do
    match key with
    | "enabled" => return { settings with enabled := ← v.asBoolean }
    | "output_dir" => return { settings with folder := ← v.asText }
    | _ => return settings

/-- What is logged where. -/
def loggingGroup : Group LoggingSettings where
  name := "LoggingConfig"
  keys := ["level", "file"]
  read key v settings := do
    match key with
    | "level" => return { settings with level := ← v.asText }
    | "file" => return { settings with file := ← v.asText }
    | _ => return settings

/-- The groups of settings. -/
def allGroups : Group Settings where
  name := "Config"
  keys := ["poll", "controller", "export", "logging"]
  read key v s := do
    match key with
    | "poll" => return { s with poll := ← pollGroup.readValue s.poll v }
    | "controller" => return { s with controller := ← controllerGroup.readValue s.controller v }
    | "export" => return { s with saving := ← savingGroup.readValue s.saving v }
    | "logging" => return { s with logging := ← loggingGroup.readValue s.logging v }
    | _ => return s

/-- Reads the settings of a document, without checking them. -/
def ofTable (document : Table) : Except Mismatch Settings :=
  allGroups.readMembers standard document

/-- Reads and checks the settings of a text. -/
def parse (text : String) : Except Problem Settings :=
  match Toml.parse? text with
  | none => .error .malformed
  | some document =>
    match ofTable document with
    | .error m => .error (.mismatch m)
    | .ok s =>
      match s.validate with
      | .error r => .error (.rule r)
      | .ok () => .ok s

/-- Why settings cannot be loaded. -/
inductive LoadFault where
  | file (fault : FileFault)
  | settings (problem : Problem)
deriving DecidableEq, Repr

/-- Loads settings from the content of a file. -/
def ofBytes (content : ByteArray) : Except LoadFault Settings :=
  match String.fromUTF8? content with
  | none => .error (.file .notText)
  | some text => (parse text).mapError .settings

/-- Loads settings from a file. -/
def load (path : String) (tree : FileTree) : Except LoadFault Settings :=
  match tree.read path with
  | .error fault => .error (.file fault)
  | .ok content => ofBytes content

end Settings

end PadMapping
