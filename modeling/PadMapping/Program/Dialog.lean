import PadMapping.Device.Gamepad
import PadMapping.Host
import PadMapping.Settings.Basic
import PadMapping.Terminal
import PadMapping.View.Run

/-!
# Dialogs

A dialog is a run of the mapping in which one thing happens after the other: a device changes, a
line is entered, the input ends or the user interrupts. Before each of them, and after the last
one, the run comes to rest: it polls until polling changes nothing any more.

A moment passes between two happenings, and more only where the user waits for a text that is not
on the screen yet. Whether another look for a device is due by then depends on how far apart such
looks have to be.
-/

namespace PadMapping

/-- What happens in a dialog. -/
inductive Happening where
  /-- The input directory is as given from now on. -/
  | devices (world : InputDirectory)
  /-- A line of input is entered. -/
  | line (content : List UInt8)
  /-- The input ends. -/
  | close
  /-- The user asks the program to stop by other means than input. -/
  | interrupt
  /-- The user waits for a text that the program is about to show. -/
  | wait (text : String)
deriving DecidableEq, Repr

namespace Dialog

/-- How many polls bring a run to rest: one that notices that the device is lost, one that
connects to another, and one that finds nothing new. -/
def pollsToRest : Nat := 3

/-- The most time that a look for a device can be away to come within a moment. -/
def moment : Nat := 50

/-- The most time that a look for a device can be away to come while the user waits. -/
def patience : Nat := 10000

/-- The time that counts before each poll of a rest that lasts at most `limit`: all the time to
the next look for a device, or none. -/
def pace (rescanInterval limit : Nat) : Nat :=
  if rescanInterval ≤ limit then rescanInterval else 0

/-- A rest: the input directory during it, and the time before each of its polls. -/
structure Rest where
  world : InputDirectory
  pace : Nat
deriving DecidableEq, Repr

/-- The rests before each happening and after the last one; the one that comes next is given. -/
def rests (rescanInterval : Nat) (next : Rest) : List Happening → List Rest
  | [] => [next]
  | .devices world :: rest =>
    next :: rests rescanInterval ⟨world, pace rescanInterval moment⟩ rest
  | .wait _ :: rest => next :: rests rescanInterval ⟨next.world, pace rescanInterval patience⟩ rest
  | _ :: rest => next :: rests rescanInterval ⟨next.world, pace rescanInterval moment⟩ rest

/-- The readings of a gamepad that is polled again and again from the given time on. -/
def readings (time : Nat) (g : Gamepad) : List Rest → List (Option Reading)
  | [] => []
  | rest :: more =>
    let due := time + rest.pace
    let (g, reading) := g.poll rest.world due
    reading :: readings due g more

/-- The time between two polls in the schedule of a dialog. Only their order matters. -/
def period : Nat := 2

/-- The time between two happenings in the schedule of a dialog. -/
def pause : Nat := pollsToRest * period

/-- The actions that follow from happenings, the first of them at `time`. Once a line was no text
no more input is read. -/
def actions (time : Nat) (listening : Bool) : List Happening → List (Nat × Action)
  | [] => []
  | .devices _ :: rest | .wait _ :: rest => actions (time + pause) listening rest
  | .interrupt :: rest => (time, .quit) :: actions (time + pause) listening rest
  | .close :: rest =>
    (if listening then [(time, Action.quit)] else []) ++ actions (time + pause) false rest
  | .line content :: rest =>
    if !listening then actions (time + pause) false rest
    else
      match Input.ofBytes content with
      | .unreadable => actions (time + pause) false rest
      | .line action => (action.map (time, ·)).toList ++ actions (time + pause) true rest

/-- The schedule of a dialog. Each happening comes right before a poll, the first one of the rest
behind it. -/
def schedule (g : Gamepad) (world : InputDirectory) (happenings : List Happening) : Schedule :=
  let first : Rest := ⟨world, pace g.rescanInterval moment⟩
  let polled := (rests g.rescanInterval first happenings).flatMap (List.replicate pollsToRest)
  let outcomes := readings 0 g polled
  { reading := fun k => (outcomes[k]?).join
    actions := actions (pause - 1) true happenings
    close := pause * (happenings.length + 1) - 1 }

/-- Runs the mapping with the happenings of a dialog, all of which take their time. -/
def play (s : Settings) (world : InputDirectory) (happenings : List Happening) (host : Host) :
    View.Ended Host :=
  let gamepad := Gamepad.start s.devicePath? s.controller.rescanInterval
  let view := View.ofSession (.start standardSteps) { s.viewOptions with interval := period }
  view.run Host.outlet (schedule gamepad world happenings) host

/-! ## Waiting -/

/-- Whether a text stands somewhere in the given bytes. -/
def shows (text : List UInt8) : List UInt8 → Bool
  | [] => text.isEmpty
  | byte :: rest => text.isPrefixOf (byte :: rest) || shows text rest

/-- Leaves out of what is to come the waits for texts that are shown already, each of them since
the wait before. What is past is given, and how much was on the screen at the last wait. -/
def needed (s : Settings) (world : InputDirectory) (host : Host) (past : List Happening)
    (mark : Nat) : List Happening → List Happening
  | [] => past
  | .wait text :: rest =>
    let content (happenings : List Happening) : List UInt8 :=
      (play s world happenings host).surroundings.screen.content
    let present := content past
    if shows text.toUTF8.toList (present.drop mark) then
      needed s world host past present.length rest
    else
      let past := past ++ [.wait text]
      needed s world host past (content past).length rest
  | happening :: rest => needed s world host (past ++ [happening]) mark rest

/-- Runs the mapping as a dialog. -/
def run (s : Settings) (world : InputDirectory) (happenings : List Happening) (host : Host) :
    View.Ended Host :=
  play s world (needed s world host [] 0 happenings) host

end Dialog

end PadMapping
