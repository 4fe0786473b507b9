import PadMapping.View.Basic

/-!
# Running the view

A running view draws its first frame, then polls the device at fixed times and takes the
actions of the user in between, until the user quits, no more actions can come, or something
goes wrong. A poll that is due at the time of an action or of the end comes before it. Time is
counted in milliseconds from the start.
-/

namespace PadMapping

/-- What reaches a running view from outside. -/
structure Schedule where
  /-- The outcome of each poll, by its number. -/
  reading : Nat → Option Reading
  /-- The actions of the user with their times, in the order of time. -/
  actions : List (Nat × Action)
  /-- The time from which no more actions can come. -/
  close : Nat

namespace View

/-- The time between two polls. Time passes from poll to poll, so it is never zero. -/
def Options.period (o : Options) : Nat := max 1 o.interval

/-- A run so far: the view, its surroundings, how many polls there were, and what each event
led to, with its time and the surroundings after it, last event first. -/
structure Progress (σ : Type) where
  view : View
  surroundings : σ
  polls : Nat
  log : List (Nat × Response × σ)

/-- A run that has ended. -/
structure Ended (σ : Type) extends Progress σ where
  /-- When it ended. -/
  time : Nat
  result : Except Fault Unit

namespace Progress

variable {σ : Type}

/-- Takes note of what an event led to. -/
def note (p : Progress σ) (time : Nat) (outcome : View × σ × Response) : Progress σ :=
  let (view, surroundings, response) := outcome
  { p with view, surroundings, log := (time, response, surroundings) :: p.log }

/-- When the next poll is due. -/
def nextPoll (p : Progress σ) : Nat := p.polls * p.view.options.period

/-- Ends a run. -/
def stop (p : Progress σ) (time : Nat) (result : Except Fault Unit) : Ended σ :=
  { p with time, result }

/-- Polls the device. -/
def poll (out : Outlet σ) (schedule : Schedule) (p : Progress σ) : Progress σ :=
  let outcome := p.view.tick out (schedule.reading p.polls) p.surroundings
  { p.note p.nextPoll outcome with polls := p.polls + 1 }

/-- Takes an action. -/
def act (out : Outlet σ) (time : Nat) (action : Action) (p : Progress σ) : Progress σ :=
  p.note time (p.view.act out action p.surroundings)

/-- What the last event came to. -/
def lastResult (p : Progress σ) : Except Fault Unit :=
  match p.log with
  | [] => .ok ()
  | (_, response, _) :: _ => response.result

theorem polls_le_of_nextPoll_le {p : Progress σ} {time : Nat} (h : p.nextPoll ≤ time) :
    p.polls ≤ time :=
  Nat.le_trans (Nat.le_mul_of_pos_right _ (Nat.le_max_left 1 _)) h

/-- Polls as long as polls are due by `time`. -/
def pollUntil (out : Outlet σ) (schedule : Schedule) (time : Nat) (p : Progress σ) :
    Except (Ended σ) (Progress σ) :=
  if p.nextPoll ≤ time then
    let next := p.poll out schedule
    match next.lastResult with
    | .error fault => .error (next.stop p.nextPoll (.error fault))
    | .ok () => pollUntil out schedule time next
  else .ok p
termination_by time + 1 - p.polls
decreasing_by
  have := polls_le_of_nextPoll_le ‹p.nextPoll ≤ time›
  simp only [poll]
  omega

/-- Goes through the actions that are left, and polls up to each of them and up to the end. -/
def advance (out : Outlet σ) (schedule : Schedule) :
    List (Nat × Action) → Progress σ → Ended σ
  | [], p =>
    match p.pollUntil out schedule schedule.close with
    | .error ended => ended
    | .ok p => p.stop schedule.close (.ok ())
  | (time, action) :: rest, p =>
    match p.pollUntil out schedule time with
    | .error ended => ended
    | .ok p =>
      if action = .quit then p.stop time (.ok ())
      else
        let p := p.act out time action
        match p.lastResult with
        | .error fault => p.stop time (.error fault)
        | .ok () => advance out schedule rest p

end Progress

/-- Runs a view to its end. -/
def run {σ : Type} (out : Outlet σ) (schedule : Schedule) (v : View) (s : σ) : Ended σ :=
  let start : Progress σ := ⟨v, s, 0, []⟩
  let p := start.note 0 (v.refresh out s)
  match p.lastResult with
  | .error fault => p.stop 0 (.error fault)
  | .ok () => p.advance out schedule schedule.actions

end View

end PadMapping
