import PadMapping.Device.Axis
import PadMapping.Device.Input
import PadMapping.DeviceId
import PadMapping.Files.Fault
import PadMapping.Reading
import PadMapping.Text.Quoted

/-!
# Gamepads

A gamepad is an input device with one of the two keys that all gamepads and joysticks have.
Unless a device is given, the first gamepad among the event nodes is used, in the order of the
bytes of their paths.

The layout of a device is its own: its buttons are its keys from the first button code on, and
its axes those up to the last axis code, both by ascending code. The scale of the axes is
settled when the device is opened.

A gamepad is connected when it is first read, and again after it was lost, but attempts to
connect are at least the rescan interval apart. Each connection has a session number of its
own.
-/

namespace PadMapping

/-! ## The layout of a device -/

/-- The key that gamepads have. -/
def southButton : Nat := 0x130

/-- The key that joysticks have. -/
def triggerButton : Nat := 0x120

/-- The least key code that is a button. -/
def firstButton : Nat := 0x100

/-- The greatest axis code that is used. -/
def lastAxis : Nat := 0x17

/-- The least number that is no key code. -/
def keyBound : Nat := 0x300

/-- The least number that is no axis code. -/
def axisBound : Nat := 0x40

namespace InputDevice

/-- Whether the device is a gamepad or a joystick. -/
def isGamepad (d : InputDevice) : Bool :=
  d.keys.contains southButton || d.keys.contains triggerButton

/-- The id of the device. -/
def id (d : InputDevice) : String := DeviceId.format d.name? d.vendor d.product

/-- The codes of the buttons, ascending. -/
def buttonCodes (d : InputDevice) : List Nat :=
  (List.range keyBound).filter fun code => decide (firstButton ≤ code) && d.keys.contains code

/-- The codes of the axes that are used, ascending. -/
def axisCodes (d : InputDevice) : List Nat :=
  (List.range (lastAxis + 1)).filter fun code => d.axes.any (·.code == code)

end InputDevice

/-- The axis with the given code. -/
def RawAxis.find? (axes : List RawAxis) (code : Nat) : Option RawAxis :=
  axes.find? (·.code == code)

/-- The scale of an axis in its present state, which is taken for its rest. -/
def RawAxis.range (axis : RawAxis) : AxisRange where
  least := axis.least
  greatest := axis.greatest
  unipolar := axis.value == axis.least && decide (0 ≤ axis.least)

/-! ## Finding gamepads -/

/-- Why the input directory cannot be searched. -/
inductive ScanFault where
  | missing
  | unreadable (fault : FileFault)
deriving DecidableEq, Repr

/-- The wording shown when the input directory cannot be searched. -/
def ScanFault.message : ScanFault → String
  | .missing => InputDirectory.path ++ " directory not found"
  | .unreadable fault => "Failed to read " ++ InputDirectory.path ++ ": " ++ fault.message

/-- Whether a text comes before another in the order of their bytes. -/
def bytesBefore (a b : String) : Bool :=
  List.lex (a.toUTF8.toList.map UInt8.toNat) (b.toUTF8.toList.map UInt8.toNat)
    fun m n => decide (m < n)

/-- A gamepad that was found, by the path of its node. -/
structure GamepadInfo where
  path : String
  id : String
deriving DecidableEq, Repr

namespace InputDirectory

/-- The names of the event nodes in the order of their bytes. -/
def eventNames (world : InputDirectory) : List String :=
  let names := (world.nodes.map (·.1)).filter fun name => "event".toList.isPrefixOf name.toList
  names.mergeSort fun a b => !bytesBefore b a

/-- The event nodes that can be opened, in the order of their bytes. -/
def scan (world : InputDirectory) : Except ScanFault (List (String × Nat × InputDevice)) :=
  match world.presence with
  | .missing => .error .missing
  | .file => .error (.unreadable .notDirectory)
  | .directory => .ok (world.eventNames.filterMap fun name =>
      (world.open? name).map fun (number, device) => (name, number, device))

/-- All gamepads, in the order of the bytes of their paths. -/
def listGamepads (world : InputDirectory) : Except ScanFault (List GamepadInfo) := do
  let found ← world.scan
  let gamepads := found.filter fun (_, _, device) => device.isGamepad
  return gamepads.map fun (name, _, device) => ⟨nodePath name, device.id⟩

end InputDirectory

/-! ## Connections -/

/-- An axis of an open device. -/
structure AxisLayout where
  code : Nat
  range : AxisRange
deriving DecidableEq, Repr

/-- An open device with its layout. -/
structure Connection where
  path : String
  /-- The number of the device in the input directory. -/
  device : Nat
  identity : Identity
  buttons : List Nat
  axes : List AxisLayout
deriving DecidableEq, Repr

namespace Connection

/-- Connects to a device; this fails if its axes cannot be read. -/
def connect? (path : String) (number : Nat) (d : InputDevice) (session : Nat) :
    Option Connection := do
  let axes ← d.readAxes
  return {
    path
    device := number
    identity := ⟨d.id, session⟩
    buttons := d.buttonCodes
    axes := d.axisCodes.filterMap fun code =>
      (RawAxis.find? axes code).map fun axis => ⟨code, axis.range⟩ }

/-- The value of an axis in the present state of the device. -/
def axisValue (axes : List RawAxis) (layout : AxisLayout) : Single :=
  layout.range.normalize (((RawAxis.find? axes layout.code).map (·.value)).getD 0)

/-- Reads the device; none if that fails. The keys are asked for before the axes. -/
def read? (c : Connection) (world : InputDirectory) : Option Reading := do
  let d ← world.device? c.device
  let pressed ← d.readKeys
  let axes ← d.readAxes
  return ⟨c.identity, c.buttons.map pressed.contains, c.axes.map (axisValue axes)⟩

end Connection

/-- A source of readings: one device at a time, connected and given up as it comes and goes.
Times are in milliseconds. -/
structure Gamepad where
  /-- The device to use; any gamepad if none is given. -/
  path : Option String
  /-- The least time between two attempts to connect. -/
  rescanInterval : Nat
  /-- The time of the last attempt or loss. -/
  lastScan : Option Nat
  /-- How many connections there have been. -/
  session : Nat
  connection : Option Connection
deriving DecidableEq, Repr

namespace Gamepad

/-- A source that has not looked for its device yet. -/
def start (path : Option String) (rescanInterval : Nat) : Gamepad :=
  ⟨path, rescanInterval, none, 0, none⟩

/-- Whether enough time has passed for another attempt to connect. -/
def isScanDue (g : Gamepad) (now : Nat) : Bool :=
  match g.lastScan with
  | none => true
  | some time => decide (g.rescanInterval ≤ now - time)

/-- Whether a poll would try to connect. -/
def wantsToConnect (g : Gamepad) (now : Nat) : Bool := g.connection.isNone && g.isScanDue now

/-- The device to connect to: the given one, or the first gamepad. -/
def candidate? (g : Gamepad) (world : InputDirectory) : Option (String × Nat × InputDevice) :=
  match g.path with
  | some path => do
    let name ← world.nodeName? path
    let (number, device) ← world.open? name
    return (path, number, device)
  | none => do
    let found ← world.scan.toOption
    let (name, number, device) ← found.find? fun (_, _, device) => device.isGamepad
    return (InputDirectory.nodePath name, number, device)

/-- Tries to connect. -/
def connect (world : InputDirectory) (now : Nat) (g : Gamepad) : Gamepad :=
  let g := { g with lastScan := some now }
  let attempt := do
    let (path, number, device) ← g.candidate? world
    Connection.connect? path number device (g.session + 1)
  match attempt with
  | none => g
  | some connection => { g with session := g.session + 1, connection := some connection }

/-- Reads the connected device, or gives it up if that fails. -/
def sample (world : InputDirectory) (now : Nat) (g : Gamepad) : Gamepad × Option Reading :=
  match g.connection with
  | none => (g, none)
  | some connection =>
    match connection.read? world with
    | some reading => (g, some reading)
    | none => ({ g with connection := none, lastScan := some now }, none)

/-- Polls the source: connects if there is no connection and an attempt is due, then reads. -/
def poll (world : InputDirectory) (now : Nat) (g : Gamepad) : Gamepad × Option Reading :=
  (if g.wantsToConnect now then g.connect world now else g).sample world now

/-- An optional path as it is shown. -/
def describePath : Option String → String
  | none => "None"
  | some path => "Some(" ++ Text.quote path ++ ")"

/-- The state of the source in one line. -/
def describe (g : Gamepad) : String :=
  "EvdevGamepad \x7b device_path: " ++ describePath g.path ++ ", session: " ++ toString g.session
    ++ ", connected: " ++ describePath (g.connection.map (·.path)) ++ ", .. \x7d"

end Gamepad

end PadMapping
