import PadMapping.Proofs.View.Running

/-!
# Only the display fails

A session refuses to record and to be passed once it is finished, and has no step to name then. A
view asks for none of this, whatever session it was made with and whatever came before, a failed
redraw included: `apply_cases` and `receive_cases` find the guards in every state, and `frame_ok`
finds a frame. What is left to go wrong is the display, so an error of an event is an error that
the display gave when it was handed the frame of this very event.

For a run this means that it ends in an error exactly if its last event is one at which the display
failed. To say among which surroundings the display was asked, the log of the run is read backwards:
`leftBy` are the surroundings that the events so far have left.
-/

namespace PadMapping.Proofs

open View

variable {σ : Type}

/-- The display was handed the frame of a response, among the surroundings `s`, and gave the
fault. -/
def DisplayFailed (out : Outlet σ) (s : σ) (response : Response) (fault : View.Fault) : Prop :=
  ∃ f s' cause, response.frame = some f ∧ out.draw f s = (s', .error cause)
    ∧ fault = .display cause

theorem not_displayFailed_quiet {out : Outlet σ} {s : σ} {fault : View.Fault} :
    ¬ DisplayFailed out s .quiet fault := by
  intro hx
  obtain ⟨f, _, _, hframe, _, _⟩ := hx
  exact absurd hframe (by simp [Response.quiet])

/-- Whether the display failed is decided by what it gave for the frame. -/
theorem displayFailed_iff {out : Outlet σ} {s s' : σ} {response : Response} {f : Frame}
    {outcome : Except FileFault Unit} {fault : View.Fault} (hframe : response.frame = some f)
    (hdraw : out.draw f s = (s', outcome)) :
    DisplayFailed out s response fault
      ↔ ∃ cause, outcome = .error cause ∧ fault = .display cause := by
  constructor
  · intro hx
    obtain ⟨f', s'', cause, hframe', hdraw', hfault⟩ := hx
    rw [hframe] at hframe'
    injection hframe' with hframe'
    subst hframe'
    rw [hdraw] at hdraw'
    injection hdraw' with _ houtcome
    exact ⟨cause, houtcome, hfault⟩
  · intro hx
    obtain ⟨cause, rfl, hfault⟩ := hx
    exact ⟨f, s', cause, hframe, hdraw, hfault⟩

/-! ## One event -/

/-- A redraw fails with what the display gives, and with nothing else. -/
theorem refresh_error_iff (out : Outlet σ) (v : View) (s : σ) (fault : View.Fault) :
    (v.refresh out s).2.2.result = .error fault
      ↔ DisplayFailed out s (v.refresh out s).2.2 fault := by
  cases hstale : v.session.stale with
  | false =>
      rw [refresh_of_fresh out s hstale]
      exact iff_of_false (by simp [Response.quiet]) not_displayFailed_quiet
  | true =>
      obtain ⟨f, hf, _⟩ := frame_ok v
      rcases hdraw : out.draw f s with ⟨s', cause | _⟩
      · rw [refresh_of_failed hstale hf hdraw, displayFailed_iff rfl hdraw]
        simp [eq_comm]
      · rw [refresh_of_shown hstale hf hdraw, displayFailed_iff rfl hdraw]
        simp

theorem tick_error_iff (out : Outlet σ) (reading : Option Reading) (v : View) (s : σ)
    (fault : View.Fault) :
    (v.tick out reading s).2.2.result = .error fault
      ↔ DisplayFailed out s (v.tick out reading s).2.2 fault := by
  obtain ⟨v', hv', _⟩ := receive_cases reading v
  rw [tick_of_receive out s hv']
  exact refresh_error_iff out v' s fault

theorem act_error_iff (out : Outlet σ) (a : Action) (v : View) (s : σ) (fault : View.Fault) :
    (v.act out a s).2.2.result = .error fault
      ↔ DisplayFailed out s (v.act out a s).2.2 fault := by
  obtain ⟨v', changed, hv', _⟩ := apply_cases a v
  rw [act_of_apply out s hv']
  cases changed with
  | true => exact refresh_error_iff out v' s fault
  | false => exact iff_of_false (by simp [Response.quiet]) not_displayFailed_quiet

/-! ## The events of a run -/

/-- The surroundings that the events of a log have left, if the first of them came among `s`. -/
def leftBy (s : σ) : List (Nat × Response × σ) → σ
  | [] => s
  | (_, _, s') :: _ => s'

/-- A run accounts for its last event: it is an error exactly if the display failed at it. -/
structure Accounted (out : Outlet σ) (s : σ) (p : Progress σ) : Prop where
  /-- Nothing but events changes the surroundings. -/
  surroundings : p.surroundings = leftBy s p.log
  /-- The last event failed if and only if the display failed at it. -/
  last : ∀ fault, p.lastResult = .error fault ↔ ∃ time response s' rest,
    p.log = (time, response, s') :: rest ∧ DisplayFailed out (leftBy s rest) response fault

theorem accounted_note {out : Outlet σ} {s : σ} {p : Progress σ} (hp : Accounted out s p)
    (time : Nat) {outcome : View × σ × Response}
    (houtcome : ∀ fault, outcome.2.2.result = .error fault
      ↔ DisplayFailed out p.surroundings outcome.2.2 fault) :
    Accounted out s (p.note time outcome) := by
  refine ⟨rfl, ?_⟩
  intro fault
  -- the new event stands first in the log, and what is behind it was left by those before
  show outcome.2.2.result = .error fault ↔ _
  rw [houtcome fault, hp.surroundings]
  constructor
  · intro h
    exact ⟨time, outcome.2.2, outcome.2.1, p.log, rfl, h⟩
  · intro hx
    obtain ⟨_, response, s', rest, hlog, hfailed⟩ := hx
    injection hlog with hentry hrest
    injection hentry with _ hentry
    injection hentry with hresponse _
    subst hresponse; subst hrest
    exact hfailed

/-- **A run accounts for how it ends**: it comes to what its last event came to. -/
theorem accounted_run (out : Outlet σ) (schedule : Schedule) (v : View) (s : σ) :
    Accounted out s (run out schedule v s).toProgress
      ∧ (run out schedule v s).result = (run out schedule v s).lastResult := by
  have hempty : Accounted out s ⟨v, s, 0, []⟩ := by
    refine ⟨rfl, ?_⟩
    intro fault
    refine iff_of_false (by simp [Progress.lastResult]) ?_
    intro hx
    obtain ⟨_, _, _, _, hlog, _⟩ := hx
    exact absurd hlog (by simp)
  refine run_induction (P := Accounted out s) ?_ ?_ ?_
  · intro p hp
    have hnote := accounted_note hp p.nextPoll
      (tick_error_iff out (schedule.reading p.polls) p.view p.surroundings)
    exact ⟨hnote.surroundings, hnote.last⟩
  · intro p time a hp
    exact accounted_note hp time (act_error_iff out a p.view p.surroundings)
  · exact accounted_note hempty 0 (refresh_error_iff out v s)

/--
**Only the display fails.**

Make a view of any session that requests arrive at, finished ones included, and ask anything of it,
going on after errors. In every state this leads to, the session has its steps and is not past its
end, every action is applied without an error, and there is a frame for every device. A poll is an
error exactly if the display is handed a frame and fails, and the error is the one the display
gives. A run that begins there ends in an error exactly if the display failed at its last event.
-/
theorem error_iff_displayFailed {out : Outlet σ} {steps : List Step} {session : Session}
    {options : Options} {h : History σ} (hs : Attained steps session)
    (hr : Reachable out (ofSession session options) h) :
    (stepsOf h.view.session = steps ∧ h.view.session.current ≤ h.view.session.size)
      ∧ (∀ a, ∃ changed, (h.view.apply a).2 = .ok changed)
      ∧ (∀ device, ∃ f, Frame.build device h.view.session = .ok f)
      ∧ (∀ reading s fault, (h.view.tick out reading s).2.2.result = .error fault
          ↔ DisplayFailed out s (h.view.tick out reading s).2.2 fault)
      ∧ ∀ schedule s fault, (run out schedule h.view s).result = .error fault
          ↔ ∃ time response s' rest, (run out schedule h.view s).log = (time, response, s') :: rest
            ∧ DisplayFailed out (leftBy s rest) response fault := by
  have hsound := sound_kept (sound_ofSession hs options) hr
  refine ⟨⟨hsound.steps, hsound.bound⟩, ?_, ?_, ?_, ?_⟩
  · intro a
    obtain ⟨_, changed, happly, _⟩ := apply_cases a h.view
    exact ⟨changed, by rw [happly]⟩
  · intro device
    obtain ⟨f, hf, _⟩ := frame_ok { h.view with device := device }
    exact ⟨f, hf⟩
  · intro reading s fault
    exact tick_error_iff out reading h.view s fault
  · intro schedule s fault
    obtain ⟨haccounted, hresult⟩ := accounted_run out schedule h.view s
    rw [hresult]
    exact haccounted.last fault

/-- A display that can show only so many more frames, beside a folder that takes everything. -/
def shortDisplay : Outlet Nat where
  draw := fun _ n => if n = 0 then (0, .error .full) else (n - 1, .ok ())
  save := fun _ _ n => (n, .ok ())

/-- A session that was finished before any device appeared. -/
def finishedEarly : Session :=
  sessionAfter [⟨"Fire", .button, 0⟩, ⟨"Jump", .button, 1⟩] [.skip, .finish]

/-- A device appears, which starts the session over; the user ends it, and the frame that would show
this fails. -/
def failedFrame : History Nat :=
  .ofCalls shortDisplay (ofSession finishedEarly .standard) 1
    [.tick (some (buttonReading ⟨"Pad", 1⟩ false)), .apply .done,
      .tick (some (buttonReading ⟨"Pad", 1⟩ false))]

/-- Nothing is out of order after the failed frame. An action is still possible or not, and a poll
is an error only if it has something to show, with the error of the display. -/
theorem error_of_failedFrame :
    Attained [⟨"Fire", .button, 0⟩, ⟨"Jump", .button, 1⟩] finishedEarly
      ∧ Reachable shortDisplay (ofSession finishedEarly .standard) failedFrame
      ∧ failedFrame.view.session.current = 2
      ∧ (∃ changed, (failedFrame.view.apply .skip).2 = .ok changed)
      ∧ (failedFrame.view.tick shortDisplay none failedFrame.surroundings).2.2.result
        = .error (.display .full) := by
  have hs : Attained [⟨"Fire", .button, 0⟩, ⟨"Jump", .button, 1⟩] finishedEarly :=
    attained_sessionAfter _ _
  have hr : Reachable shortDisplay (ofSession finishedEarly .standard) failedFrame :=
    reachable_ofCalls _ _ _ _
  obtain ⟨_, happly, _, htick, _⟩ := error_iff_displayFailed hs hr
  have hfailed : DisplayFailed shortDisplay failedFrame.surroundings
      (failedFrame.view.tick shortDisplay none failedFrame.surroundings).2.2
      (.display .full) := ⟨.disconnected, 0, .full, rfl, rfl, rfl⟩
  exact ⟨hs, hr, rfl, happly .skip, (htick none _ _).mpr hfailed⟩

end PadMapping.Proofs
