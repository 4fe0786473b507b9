import PadMapping.Files.Fault
import PadMapping.View.Frame

/-!
# The view

The view connects a session with its surroundings. It takes readings of the device and actions
of the user, one at a time, and after each of them draws a frame if the session has changed.

* When another connection than before is read, or none, the session starts over.
* While the session waits, a reading without an active control ends the waiting. Otherwise an
  active control is recorded for the current step.
* The first frame after the session has finished is also the time to save the export. A save
  that fails is not tried again before the session finishes anew.

What drawing and saving come to is up to the surroundings, which the view knows only as an
`Outlet` on a state of their own.
-/

namespace PadMapping

/-- How the view behaves. -/
structure View.Options where
  /-- The time between two polls, in milliseconds. -/
  interval : Nat
  /-- The deflection from which an axis counts as pushed. -/
  threshold : Single
  /-- Where exports are saved, if they are. -/
  folder : Option String
deriving DecidableEq, Repr

/-- The options unless the settings say otherwise. -/
def View.Options.standard : View.Options := ⟨50, defaultThreshold, none⟩

/-- What the view draws on and saves to. -/
structure Outlet (σ : Type) where
  draw : Frame → σ → σ × Except FileFault Unit
  /-- Saves an export in a folder. -/
  save : String → Export → σ → σ × Except FileFault Unit

/-- What can go wrong when the view handles an event. -/
inductive View.Fault where
  | session (fault : Session.Fault)
  | display (fault : FileFault)
deriving DecidableEq, Repr

/-- A session, the connection it belongs to, and whether its result is saved. -/
structure View where
  session : Session
  device : Option Identity
  saved : Bool
  options : View.Options
deriving DecidableEq, Repr

/-- What an event led to. -/
structure Response where
  /-- The frame that was handed to the display. -/
  frame : Option Frame
  /-- The export that was handed over to be saved. -/
  attempt : Option Export
  result : Except View.Fault Unit

namespace Response

/-- Nothing was drawn. -/
def quiet : Response := ⟨none, none, .ok ()⟩

/-- Something went wrong before anything was drawn. -/
def failed (fault : View.Fault) : Response := ⟨none, none, .error fault⟩

end Response

namespace View

variable {σ : Type}

/-- A view of a session that has seen no device yet. -/
def ofSession (session : Session) (options : Options) : View := ⟨session, none, false, options⟩

/-- The frame for the present state. -/
def frame (v : View) : Except Session.Fault Frame := Frame.build v.device v.session

/-- The actions that are possible now. -/
def availability (v : View) : Availability := .ofSession v.device.isSome v.session

/-! ## Readings and actions -/

/-- Keeps to the connection of a reading; the session starts over when it is another one. -/
def track (identity : Option Identity) (v : View) : View :=
  if identity = v.device then v
  else { v with device := identity, session := v.session.reset, saved := false }

/-- Takes a reading into the session. -/
def observe (r : Reading) (v : View) : Except Session.Fault View :=
  if v.session.isDone then .ok v
  else if v.session.waiting then
    .ok (if r.isNeutral v.options.threshold then { v with session := v.session.released } else v)
  else
    match r.active? v.options.threshold with
    | none => .ok v
    | some control => (v.session.record control).map fun session => { v with session }

/-- Takes the outcome of a poll: a reading, or none if there is no device. -/
def receive (reading : Option Reading) (v : View) : View × Except Session.Fault Unit :=
  let v := v.track (reading.map Reading.identity)
  match reading with
  | none => (v, .ok ())
  | some r =>
    match v.observe r with
    | .ok v => (v, .ok ())
    | .error fault => (v, .error fault)

/-- Applies an action if it is possible, and says whether it changed the session. -/
def apply (action : Action) (v : View) : View × Except Session.Fault Bool :=
  if !v.availability.allows action then (v, .ok false)
  else
    match action with
    | .skip =>
      match v.session.skip with
      | .ok session => ({ v with session }, .ok true)
      | .error fault => (v, .error fault)
    | .reset => ({ v with session := v.session.reset, saved := false }, .ok true)
    | .back => ({ v with session := v.session.back, saved := false }, .ok true)
    | .done => ({ v with session := v.session.finish }, .ok true)
    | .quit => (v, .ok false)

/-! ## Drawing and saving -/

/-- The export to save after a frame was drawn, with its folder. -/
def due? (v : View) (frame : Frame) : Option (String × Export) :=
  if v.saved then none
  else do return (← v.options.folder, ← frame.result)

/-- Saves the export of a drawn frame if that is due. -/
def store (out : Outlet σ) (frame : Frame) (v : View) (s : σ) : View × σ × Option Export :=
  match v.due? frame with
  | none => (v, s, none)
  | some (folder, e) =>
    let (s, outcome) := out.save folder e s
    ({ v with saved := outcome.isOk }, s, some e)

/-- Draws a frame if the session has changed since the last one, then saves the export if that
is due. -/
def refresh (out : Outlet σ) (v : View) (s : σ) : View × σ × Response :=
  let (stale, session) := v.session.takeStale
  let v := { v with session }
  if !stale then (v, s, .quiet)
  else
    match v.frame with
    | .error fault => (v, s, .failed (.session fault))
    | .ok frame =>
      match out.draw frame s with
      | (s, .error fault) => (v, s, ⟨some frame, none, .error (.display fault)⟩)
      | (s, .ok ()) =>
        let (v, s, attempt) := v.store out frame s
        (v, s, ⟨some frame, attempt, .ok ()⟩)

/-! ## Events -/

/-- What the view reacts to. -/
inductive Event where
  /-- The outcome of a poll. -/
  | poll (reading : Option Reading)
  | action (a : Action)
deriving DecidableEq, Repr

/-- Takes the outcome of a poll and draws. -/
def tick (out : Outlet σ) (reading : Option Reading) (v : View) (s : σ) : View × σ × Response :=
  match v.receive reading with
  | (v, .error fault) => (v, s, .failed (.session fault))
  | (v, .ok ()) => v.refresh out s

/-- Applies an action and draws if it changed the session. -/
def act (out : Outlet σ) (action : Action) (v : View) (s : σ) : View × σ × Response :=
  match v.apply action with
  | (v, .error fault) => (v, s, .failed (.session fault))
  | (v, .ok false) => (v, s, .quiet)
  | (v, .ok true) => v.refresh out s

/-- Reacts to an event. -/
def handle (out : Outlet σ) (event : Event) (v : View) (s : σ) : View × σ × Response :=
  match event with
  | .poll reading => v.tick out reading s
  | .action a => v.act out a s

end View

end PadMapping
