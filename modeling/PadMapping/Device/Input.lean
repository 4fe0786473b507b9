import PadMapping.Files.Location
import PadMapping.Text.Utf8

/-!
# Input devices

An input device as the system presents it: what it is called, which keys and axes it has, and
their state. A device can refuse requests, all of them or those for keys or axes.

Devices are found as nodes in the input directory. Whoever has opened a device keeps it when
its node goes away or comes to stand for another device, so a directory knows its devices by
numbers of their own.
-/

namespace PadMapping

/-- An axis as the device reports it. -/
structure RawAxis where
  code : Nat
  value : Int
  least : Int
  greatest : Int
deriving DecidableEq, Repr

/-- Which requests a device refuses. -/
structure Refusals where
  /-- All of them, and being opened too. -/
  gone : Bool
  /-- Those for the state of an axis. -/
  axes : Bool
  /-- Those for the state of the keys. -/
  keys : Bool
deriving DecidableEq, Repr

namespace Refusals

/-- No request is refused. -/
def none : Refusals := ⟨false, false, false⟩

/-- The refusals of both. -/
def union (a b : Refusals) : Refusals := ⟨a.gone || b.gone, a.axes || b.axes, a.keys || b.keys⟩

end Refusals

/-- An input device. -/
structure InputDevice where
  /-- The bytes of the name. -/
  nameBytes : List UInt8
  vendor : UInt16
  product : UInt16
  /-- The codes of the keys that the device has. -/
  keys : List Nat
  axes : List RawAxis
  /-- The codes of the keys that are held down. -/
  pressed : List Nat
  refusals : Refusals
deriving DecidableEq, Repr

namespace InputDevice

/-- The name; a device without one reports an empty name. -/
def name? (d : InputDevice) : Option String :=
  if d.nameBytes.isEmpty then none else some (String.ofList (Text.decodeLossy d.nameBytes))

/-- The state of the keys: the codes of those held down. -/
def readKeys (d : InputDevice) : Option (List Nat) :=
  if d.refusals.gone || d.refusals.keys then none else some d.pressed

/-- The state of all axes. For a device without axes no request is made that could be
refused. -/
def readAxes (d : InputDevice) : Option (List RawAxis) :=
  if d.axes.isEmpty then some []
  else if d.refusals.gone || d.refusals.axes then none else some d.axes

/-- Moves an axis, if the device has it. -/
def moveAxis (d : InputDevice) (code : Nat) (value : Int) : InputDevice :=
  { d with axes := d.axes.map fun axis => if axis.code = code then { axis with value } else axis }

/-- Changes the state: which keys are held, if given, and the values of axes. -/
def change (pressed : Option (List Nat)) (values : List (Nat × Int)) (d : InputDevice) :
    InputDevice :=
  let d := { d with pressed := pressed.getD d.pressed }
  values.foldl (fun d (code, value) => d.moveAxis code value) d

/-- Refuses more requests. -/
def refuse (more : Refusals) (d : InputDevice) : InputDevice :=
  { d with refusals := d.refusals.union more }

/-- Refuses no requests any more. -/
def repair (d : InputDevice) : InputDevice := { d with refusals := .none }

end InputDevice

/-- What a node of the input directory is. -/
inductive InputNode where
  /-- The device with the given number. -/
  | device (number : Nat)
  /-- A file that is no device. -/
  | file
  | directory
deriving DecidableEq, Repr

/-- The input directory, with all devices that ever were in it. -/
structure InputDirectory where
  /-- Whether the directory is there. -/
  presence : Presence
  nodes : List (String × InputNode)
  devices : List InputDevice
deriving DecidableEq, Repr

namespace InputDirectory

/-- Where the input directory is. -/
def path : String := "/dev/input"

/-- An input directory without any nodes. -/
def empty (presence : Presence) : InputDirectory := ⟨presence, [], []⟩

variable (world : InputDirectory)

/-- The directory without a node. -/
def removeNode (name : String) : InputDirectory :=
  { world with nodes := world.nodes.filter (·.1 != name) }

/-- Puts a node into the directory, in place of any other of its name. -/
def putNode (name : String) (node : InputNode) : InputDirectory :=
  { world with nodes := (world.removeNode name).nodes ++ [(name, node)] }

/-- The number of the device that a node is. -/
def numberOf? (name : String) : Option Nat :=
  match world.nodes.lookup name with
  | some (.device number) => some number
  | _ => none

/-- Changes the device that a node is. -/
def updateDevice (name : String) (f : InputDevice → InputDevice) : InputDirectory :=
  match world.numberOf? name with
  | none => world
  | some number => { world with devices := world.devices.modify number f }

/-- A device appears as a node. -/
def plug (name : String) (device : InputDevice) : InputDirectory :=
  { world.putNode name (.device world.devices.length) with devices := world.devices ++ [device] }

/-- A node goes away, and its device refuses everything from now on. -/
def unplug (name : String) : InputDirectory :=
  (world.updateDevice name (·.refuse ⟨true, false, false⟩)).removeNode name

/-- The device with a number. -/
def device? (number : Nat) : Option InputDevice := world.devices[number]?

/-- Opens a node as a device, and gives the number of the device. -/
def open? (name : String) : Option (Nat × InputDevice) := do
  let number ← world.numberOf? name
  let device ← world.device? number
  if device.refusals.gone then none else return (number, device)

/-- The path of a node. -/
def nodePath (name : String) : String := path ++ "/" ++ name

/-- The input directory as a location. -/
def location : Location := ⟨path⟩

/-- What stands at a location. Nothing is known of what is elsewhere. -/
def present (l : Location) : Presence :=
  if l = location then world.presence
  else if l = .root ∨ l = location.parent then .directory
  else
    match (location.below? l).bind (List.lookup · world.nodes) with
    | none => .missing
    | some .directory => .directory
    | some _ => .file

/-- The location to which a path leads. Only paths that literally begin with `/dev/input/` lead
anywhere. A real system also follows others that arrive there, such as `/dev/./input/event0`, a
relative path or a symbolic link from elsewhere. That none of these opens is a limit of this
environment, which knows of no directory but this one. -/
def resolve (path : String) : Except FileFault Location := do
  Path.check path
  match ((InputDirectory.path ++ "/").toList.isPrefixOf? path.toList).map String.ofList with
  | none => throw .notFound
  | some rest =>
    if Path.endsWithSlash rest then throw .isDirectory
    Location.follow world.present location (Path.names rest)

/-- The name of the node to which a path leads. -/
def nodeName? (path : String) : Option String :=
  (world.resolve path).toOption.bind location.below?

end InputDirectory

end PadMapping
