import PadMapping.Session

/-!
# What the user can ask for

Besides pressing controls the user can act on the session. An action is possible only at times:
none but quitting without a device, nothing that goes back at the first step, and nothing that
goes on once the session is finished.
-/

namespace PadMapping

/-- What the user can ask for. -/
inductive Action where
  /-- Pass the current step without a result. -/
  | skip
  /-- Drop all results and start over. -/
  | reset
  /-- Go back to the step before. -/
  | back
  /-- Finish now and leave the other steps without results. -/
  | done
  /-- Stop. -/
  | quit
deriving DecidableEq, Repr

/-- Which actions are possible. -/
structure Availability where
  reset : Bool
  back : Bool
  skip : Bool
  done : Bool
deriving DecidableEq, Repr

namespace Availability

/-- No action is possible. -/
def nothing : Availability := ⟨false, false, false, false⟩

/-- What is possible in a session, if a device is connected. -/
def ofSession (connected : Bool) (s : Session) : Availability :=
  if connected then
    ⟨s.current != 0, s.current != 0, !s.isDone, !s.isDone⟩
  else nothing

/-- Whether an action is possible. Quitting always is. -/
def allows (a : Availability) : Action → Bool
  | .skip => a.skip
  | .reset => a.reset
  | .back => a.back
  | .done => a.done
  | .quit => true

end Availability

end PadMapping
