import PadMapping.Proofs.View.Running

/-!
# The screen is never stale

The user answers what the screen asks, so the frame on it has to be the frame of the present
state. A redraw only happens when the session is stale, which leaves two ways to go wrong: a
change that does not make the session stale, and a redraw that does not happen. `eq_of_handled`
excludes the first and `handle_of_fresh` the second, so between two events the last frame that was
handed to the display is the one that would be built now.

This says nothing about what the display made of the frame. A frame counts as handed over even if
the display then fails, and a failed frame is not handed over again.
-/

namespace PadMapping.Proofs

open View

variable {σ : Type}

/-- The last frame that was handed to the display. -/
def lastFrame (p : Progress σ) : Option Frame := p.log.findSome? fun entry => entry.2.1.frame

theorem lastFrame_note (p : Progress σ) (time : Nat) (outcome : View × σ × Response) :
    lastFrame (p.note time outcome) = outcome.2.2.frame.or (lastFrame p) := by
  rw [lastFrame, Progress.note, List.findSome?_cons]
  cases outcome.2.2.frame <;> rfl

/-- A redraw of a stale session hands over the frame of what it leaves. -/
theorem frame_of_refresh {v : View} (out : Outlet σ) (s : σ) (h : v.session.stale = true) :
    ∃ f, (v.refresh out s).2.2.frame = some f ∧ (v.refresh out s).1.frame = .ok f := by
  obtain ⟨f, hf, _⟩ := frame_ok v
  obtain ⟨saved, hview, _⟩ := refresh_view out v s
  refine ⟨f, ?_, ?_⟩
  · rcases hdraw : out.draw f s with ⟨s', _ | _⟩
    · rw [refresh_of_failed h hf hdraw]
    · rw [refresh_of_shown h hf hdraw]
  · rw [hview]
    exact hf

/-- The frame of the present state is the one that was handed over last. -/
def ScreenCurrent (p : Progress σ) : Prop := ∃ f, lastFrame p = some f ∧ p.view.frame = .ok f

/-- An event either leaves view and screen alone or brings both up to date. -/
theorem screenCurrent_event {out : Outlet σ} {p : Progress σ} (time : Nat) (e : Event)
    (hfresh : p.view.session.stale = false) (hinv : ScreenCurrent p) :
    ScreenCurrent (p.note time (p.view.handle out e p.surroundings)) := by
  rw [handle_of_fresh out e p.surroundings hfresh]
  cases hstale : (reacted e p.view).session.stale with
  | true =>
      obtain ⟨f, hframe, hf⟩ := frame_of_refresh out p.surroundings hstale
      refine ⟨f, ?_, hf⟩
      rw [lastFrame_note, hframe]
      rfl
  | false =>
      -- nothing left a mark, so the frame that is already there is still the right one
      obtain ⟨f, hlast, hf⟩ := hinv
      rw [eq_of_handled (reacted_cases e p.view) hstale, refresh_of_fresh out _ hfresh]
      refine ⟨f, ?_, hf⟩
      rw [lastFrame_note, hlast]
      rfl

theorem screenCurrent_start (out : Outlet σ) {v₀ : View} (s : σ)
    (hstale : v₀.session.stale = true) :
    ScreenCurrent (Progress.note ⟨v₀, s, 0, []⟩ 0 (v₀.refresh out s)) := by
  obtain ⟨f, hframe, hf⟩ := frame_of_refresh out s hstale
  refine ⟨f, ?_, hf⟩
  rw [lastFrame_note, hframe]
  rfl

theorem screenCurrent_running {out : Outlet σ} {steps : List Step} {options : Options}
    {p : Progress σ} (hp : Running out (fresh steps options) p) : ScreenCurrent p :=
  running_induction (fun s => screenCurrent_start out s rfl)
    (fun time e hp ih => screenCurrent_event time e (stale_running hp) ih) (fun ih => ih) hp

/--
**The screen is never stale.**

After its first frame and after every poll and action, a running view is not to be redrawn, and
the last frame handed to the display is the frame of its present state. So a poll that records a
control for a step comes while the screen shows the device of that poll and asks for that step.
-/
theorem lastFrame_current (out : Outlet σ) (steps : List Step) (options : Options) :
    (∀ p, Running out (fresh steps options) p →
        p.view.session.stale = false ∧ ∃ f, lastFrame p = some f ∧ p.view.frame = .ok f)
      ∧ (∀ p reading i control, Running out (fresh steps options) p →
          Records p.view reading i control →
          ∃ r f step, reading = some r ∧ lastFrame p = some f ∧ f.connection = r.identity.id
            ∧ steps[i]? = some step ∧ f.instruction = "Press " ++ step.name)
      ∧ ∀ schedule s,
          Running out (fresh steps options)
            (run out schedule (fresh steps options) s).toProgress := by
  refine ⟨?_, ?_, fun schedule s => running_run out schedule _ s⟩
  · intro p hp
    exact ⟨stale_running hp, screenCurrent_running hp⟩
  · intro p reading i control hp hrec
    obtain ⟨f, hlast, hf⟩ := screenCurrent_running hp
    obtain ⟨r, hreading, hdev, hd, hw, _, hcur⟩ := records_iff.mp hrec
    obtain ⟨hconn, step, hstep, hins⟩ := frame_asking hdev hd hw hf
    rw [(sound_running hp).steps, hcur] at hstep
    exact ⟨r, f, step, hreading, hlast, hconn, hstep, hins⟩

/-- A running view after a first poll that found a device with its controls released. -/
def deviceFound : Progress Unit :=
  let v := fresh [⟨"Fire", .button, 0⟩, ⟨"Stick", .axis, 0⟩] .standard
  (Progress.note ⟨v, (), 0, []⟩ 0 (v.refresh plainOutlet ())).poll plainOutlet
    ⟨fun _ => some (buttonReading ⟨"Pad", 1⟩ false), [], 0⟩

/-- Before the poll that takes the press, the screen asks this very device for the first step. -/
theorem lastFrame_before_press :
    Running plainOutlet (fresh [⟨"Fire", .button, 0⟩, ⟨"Stick", .axis, 0⟩] .standard) deviceFound
      ∧ Records deviceFound.view (some (buttonReading ⟨"Pad", 1⟩ true)) 0 (.button 0)
      ∧ deviceFound.view.session.stale = false
      ∧ ∃ f, lastFrame deviceFound = some f ∧ f.connection = "Pad"
        ∧ f.instruction = "Press " ++ "Fire" := by
  have hp : Running plainOutlet
      (fresh [⟨"Fire", .button, 0⟩, ⟨"Stick", .axis, 0⟩] .standard) deviceFound :=
    .poll _ (.start ())
  have hrec : Records deviceFound.view (some (buttonReading ⟨"Pad", 1⟩ true)) 0 (.button 0) :=
    ⟨rfl, rfl, rfl⟩
  obtain ⟨hcurrent, hasked, _⟩ := lastFrame_current plainOutlet
    [⟨"Fire", .button, 0⟩, ⟨"Stick", .axis, 0⟩] .standard
  obtain ⟨r, f, step, hr, hlast, hconn, hstep, hins⟩ := hasked deviceFound _ 0 _ hp hrec
  injection hr with hr
  injection hstep with hstep
  subst hr; subst hstep
  exact ⟨hp, hrec, (hcurrent deviceFound hp).1, f, hlast, hconn, hins⟩

end PadMapping.Proofs
