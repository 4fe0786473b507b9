import PadMapping.Step

/-!
# Mapping sessions

A session walks through the steps in order and records a control for each, or none. It is
finished once it has walked past the last step.

After a control was recorded the session waits: all controls have to be released before the
next one is taken, so that one press answers one step. A new session waits as well.

A session is stale from any change of it until somebody asks, with `takeStale`, whether it
has to be drawn again.
-/

namespace PadMapping

/-- The progress through the steps. -/
structure Session where
  assignments : List Assignment
  /-- The index of the step that is asked for; the number of steps once finished. -/
  current : Nat
  /-- Whether it has to be drawn again. -/
  stale : Bool
  /-- Whether all controls have to be released first. -/
  waiting : Bool
deriving DecidableEq, Repr

/-- What can be wrong with a request to a session. It carries no session: the one from before the
request goes on. -/
inductive Session.Fault where
  /-- There is no current step any more. -/
  | finished
deriving DecidableEq, Repr

/-- The wording shown for a fault. -/
def Session.Fault.message : Session.Fault → String
  | .finished => "Cannot access after mapping is done"

namespace Session

/-- Drops all results and goes back to the first step. -/
def reset (s : Session) : Session where
  assignments := s.assignments.map fun a => { a with control := none }
  current := 0
  stale := true
  waiting := true

/-- A session at the first of the given steps. -/
def start (steps : List Step) : Session where
  assignments := steps.map (⟨·, none⟩)
  current := 0
  stale := true
  waiting := true

/-- The number of steps. -/
def size (s : Session) : Nat := s.assignments.length

/-- Whether the last step has been passed. -/
def isDone (s : Session) : Bool := s.size ≤ s.current

/-- Passes the current step without recording anything. -/
def skip (s : Session) : Except Fault Session :=
  if s.isDone then .error .finished
  else .ok { s with current := s.current + 1, stale := true }

/-- Goes back one step, from the first one to itself. The result recorded there is kept until
another one replaces it. -/
def back (s : Session) : Session :=
  { s with current := s.current - 1, stale := true }

/-- Ends the waiting: all controls were seen released. -/
def released (s : Session) : Session :=
  { s with waiting := false, stale := true }

/-- Passes all steps that are left. -/
def finish (s : Session) : Session :=
  { s with current := s.size, stale := true }

/-- Records a control for the current step, passes the step and waits for the release. -/
def record (s : Session) (control : Control) : Except Fault Session :=
  if s.isDone then .error .finished
  else .ok {
    assignments := s.assignments.modify s.current fun a => { a with control := some control }
    current := s.current + 1
    stale := true
    waiting := true }

/-- The name of the step that is asked for. -/
def currentName (s : Session) : Except Fault String :=
  match s.assignments[s.current]? with
  | none => .error .finished
  | some a => .ok a.step.name

/-- Asks whether the session has to be drawn again, and takes it as drawn. -/
def takeStale (s : Session) : Bool × Session :=
  (s.stale, { s with stale := false })

/-- One line for each step. -/
def describe (s : Session) : String :=
  String.join (s.assignments.map fun a => a.describe ++ "\n")

end Session

end PadMapping
