import PadMapping.Proofs.View.Answers
import PadMapping.Proofs.View.Saving

/-!
# A new connection starts from a clean slate

When the connection changes, the view drops its session and begins another one. This module says
that nothing at all is carried over: two views on the same steps, with any past each, are told apart
by nothing from the moment both see the same new connection.

The argument is a bisimulation. What a view shows at the moment is its session and its device, and
those are equal after the change. But there is also the note that the result is saved, which no
frame shows. It can only be different if the new session has no step, is therefore finished at once,
and could be saved in one of the two surroundings only. Then it never matters: nothing is redrawn as
long as the view stays finished, and whatever ends that drops the note (`perform_twin`).
-/

namespace PadMapping.Proofs

open View

variable {σ τ : Type}

/-- Two views that no call tells apart. -/
structure Twin (v w : View) : Prop where
  /-- They differ in what is noted about saving at most. -/
  view : forget v = forget w
  /-- What is noted agrees as well, or it does not count at the moment. -/
  saved : v.saved = w.saved ∨ (Finished v ∧ v.session.stale = false)

theorem Twin.refl (v : View) : Twin v v := ⟨rfl, Or.inl rfl⟩

theorem eq_of_forget {v w : View} (h : forget v = forget w) (hsaved : v.saved = w.saved) :
    v = w := by
  obtain ⟨hsession, hdevice, hoptions⟩ := present_of_forget h
  obtain ⟨session, device, saved, options⟩ := v
  obtain ⟨session', device', saved', options'⟩ := w
  cases hsession
  cases hdevice
  cases hoptions
  cases hsaved
  rfl

/-! ## A change of the connection -/

/-- A session that starts over is as good as new. -/
theorem reset_eq_start (s : Session) : s.reset = .start (stepsOf s) := by
  simp [Session.reset, Session.start, stepsOf]

/-- Of the view before, only its steps and its options are left. -/
theorem switched_congr {v w : View} (identity : Option Identity)
    (hsteps : stepsOf v.session = stepsOf w.session) (hoptions : v.options = w.options) :
    switched identity v = switched identity w := by
  rw [switched, switched, reset_eq_start, reset_eq_start, hsteps, hoptions]

/-- When both views change to the same connection, what they take into their sessions is the same. -/
theorem receive_congr {v w : View} {reading : Option Reading}
    (hsteps : stepsOf v.session = stepsOf w.session) (hoptions : v.options = w.options)
    (hv : reading.map Reading.identity ≠ v.device)
    (hw : reading.map Reading.identity ≠ w.device) : v.receive reading = w.receive reading := by
  rw [receive_of_other hv, receive_of_other hw, switched_congr _ hsteps hoptions]

theorem tick_congr {v w : View} {reading : Option Reading} (out : Outlet σ) (s : σ)
    (h : v.receive reading = w.receive reading) :
    v.tick out reading s = w.tick out reading s := by
  rw [tick, tick, h]

/-- After a poll that changes the connection nothing is saved yet. -/
theorem unsaved_of_other {v v' : View} {reading : Option Reading}
    (hother : reading.map Reading.identity ≠ v.device) (h : Received v reading v') :
    v'.saved = false := by
  cases h with
  | same hsame => exact absurd hsame hother
  | released hdev | recorded hdev => exact absurd (by simp [hdev]) hother
  | switched | switchedReleased => rfl

/-- A redraw makes twins of a view in which nothing is saved, whatever displays and folders do. -/
theorem twin_refresh {u : View} (out : Outlet σ) (out' : Outlet τ) (s : σ) (t : τ)
    (hu : u.saved = false) : Twin (u.refresh out s).1 (u.refresh out' t).1 := by
  obtain ⟨saved, hview, hsaved⟩ := refresh_view out u s
  obtain ⟨saved', hview', hsaved'⟩ := refresh_view out' u t
  rw [hview, hview']
  rw [hu] at hsaved hsaved'
  refine ⟨rfl, ?_⟩
  -- a note that only one of the two has made was made for a finished view, and that has been drawn
  cases saved with
  | true => exact Or.inr ⟨(hsaved rfl).resolve_left (by simp), rfl⟩
  | false =>
      cases saved' with
      | true => exact Or.inr ⟨(hsaved' rfl).resolve_left (by simp), rfl⟩
      | false => exact Or.inl rfl

/-- **After a change of the connection two views are twins.** -/
theorem twin_of_other {v w : View} {reading : Option Reading} (out : Outlet σ) (out' : Outlet τ)
    (s : σ) (t : τ) (hsteps : stepsOf v.session = stepsOf w.session)
    (hoptions : v.options = w.options) (hv : reading.map Reading.identity ≠ v.device)
    (hw : reading.map Reading.identity ≠ w.device) :
    Twin (v.tick out reading s).1 (w.tick out' reading t).1 := by
  obtain ⟨u, hu, hrec⟩ := receive_cases reading w
  have hu' : v.receive reading = (u, .ok ()) := by rw [receive_congr hsteps hoptions hv hw, hu]
  rw [tick_of_receive out s hu', tick_of_receive out' t hu]
  exact twin_refresh out out' s t (unsaved_of_other hw hrec)

def savingOptions : Options := { Options.standard with folder := some "maps" }

/-- The notes can differ: without steps the new session is finished at once, and its result is saved
where the folder takes it. -/
example :
    ((fresh [] savingOptions).tick plainOutlet (some (buttonReading ⟨"Pad", 1⟩ false)) ()).1.saved
        = true
      ∧ ((fresh [] savingOptions).tick fullFolder (some (buttonReading ⟨"Pad", 1⟩ false)) 0).1.saved
        = false := by
  decide

/-! ## The bisimulation -/

theorem twin_apply {v w : View} (h : Twin v w) (a : Action) :
    (v.apply a).2 = (w.apply a).2 ∧ Twin (v.apply a).1 (w.apply a).1 := by
  rcases h.saved with hsaved | ⟨hfin, hfresh⟩
  · rw [eq_of_forget h.view hsaved]
    exact ⟨rfl, .refl _⟩
  · have heq := apply_forget a v
    rw [h.view, apply_forget] at heq
    obtain ⟨v', changed, hv, happ⟩ := apply_cases a v
    obtain ⟨w', changed', hw, happ'⟩ := apply_cases a w
    rw [hv, hw] at heq
    injection heq with hview hchanged
    rw [hv, hw]
    refine ⟨hchanged.symm, hview.symm, ?_⟩
    injection hchanged with hchanged
    cases happ with
    | ignored => exact Or.inr ⟨hfin, hfresh⟩
    | skip _ hd | done _ hd =>
        rw [hfin.2] at hd
        exact absurd hd (by simp)
    | reset | back =>
        -- what changes a finished view goes back in it, and nothing is saved any more
        subst hchanged
        cases happ'
        exact Or.inl rfl

section

variable {out : Outlet σ} {out' : Outlet τ} {R : σ → τ → Prop} {s : σ} {t : τ}
variable (hout : Concordant out out' R) (hst : R s t)

include hout hst

/-- **No call tells twins apart**, and they stay twins. -/
theorem perform_twin {v w : View} (h : Twin v w) (c : Call) :
    Twin (c.perform out v s).1 (c.perform out' w t).1
      ∧ R (c.perform out v s).2 (c.perform out' w t).2
      ∧ c.answer out v s = c.answer out' w t := by
  obtain ⟨hsession, hdevice, hoptions⟩ := present_of_forget h.view
  rcases h.saved with hsaved | ⟨hfin, hfresh⟩
  · rw [← eq_of_forget h.view hsaved]
    obtain ⟨hview, hrelated, hanswer⟩ := perform_concordant hout hst v c
    exact ⟨hview ▸ .refl _, hrelated, hanswer⟩
  · have hfin' : Finished w := by rw [Finished, ← hsession, ← hdevice]; exact hfin
    have hfresh' : w.session.stale = false := hsession ▸ hfresh
    cases c with
    | apply a =>
        obtain ⟨houtcome, htwin⟩ := twin_apply h a
        exact ⟨htwin, hst, congrArg Answer.changed houtcome⟩
    | refresh =>
        rw [Call.perform, Call.perform, Call.answer, Call.answer,
          refresh_of_fresh out s hfresh, refresh_of_fresh out' t hfresh']
        exact ⟨h, hst, rfl⟩
    | tick reading =>
        by_cases hsame : reading.map Reading.identity = v.device
        · rw [Call.perform, Call.perform, Call.answer, Call.answer,
            tick_of_idle out s hsame (fun _ _ => Or.inl hfin.2) hfresh,
            tick_of_idle out' t (hsame.trans hdevice) (fun _ _ => Or.inl hfin'.2) hfresh']
          exact ⟨h, hst, rfl⟩
        · -- the connection changes again, and with it goes the note
          have hsteps : stepsOf v.session = stepsOf w.session := by rw [hsession]
          have hother : reading.map Reading.identity ≠ w.device := hdevice ▸ hsame
          have hcongr := receive_congr hsteps hoptions hsame hother
          have htick := tick_congr out s hcongr
          obtain ⟨hview, hrelated, hanswer⟩ := matched_tick hout hst reading w
          rw [Call.perform, Call.perform, Call.answer, Call.answer, htick]
          exact ⟨hview ▸ .refl _, hrelated, congrArg Answer.response hanswer⟩

/-- Twins give the same answers to every list of calls, and are twins after it. -/
theorem performAll_twin {v w : View} (h : Twin v w) (calls : List Call) :
    answers out v s calls = answers out' w t calls
      ∧ Twin (performAll out v s calls).1 (performAll out' w t calls).1 := by
  induction calls generalizing v w s t with
  | nil => exact ⟨rfl, h⟩
  | cons c calls ih =>
      obtain ⟨htwin, hrelated, hanswer⟩ := perform_twin hout hst h c
      obtain ⟨hanswers, htwins⟩ := ih hrelated htwin
      exact ⟨by rw [answers, answers, hanswer, hanswers], htwins⟩

end

/--
**No information flows across a change of the connection.**

Take two views on the same steps and with the same options, whatever was asked of them before and
wherever they draw and save, and a poll that changes the connection of both. After it they have the
same session, device and possible actions. And from the moment on at which the outlets give the
same outcomes, the two views do the same: if that is before the poll, they are equal after it and
respond to it alike; if it is after the poll, they still answer every list of calls alike, with the
same outcomes, frames and attempts to save, and arrive at the same session and device.
-/
theorem answers_of_switched (out : Outlet σ) (out' : Outlet τ) (s : σ) (t : τ) {v w : View}
    {reading : Option Reading} (hsteps : stepsOf v.session = stepsOf w.session)
    (hoptions : v.options = w.options) (hv : reading.map Reading.identity ≠ v.device)
    (hw : reading.map Reading.identity ≠ w.device) :
    let a := v.tick out reading s
    let b := w.tick out' reading t
    (a.1.session = b.1.session ∧ a.1.device = b.1.device ∧ a.1.availability = b.1.availability)
      ∧ ∀ R : σ → τ → Prop, Concordant out out' R →
        (R s t → a.1 = b.1 ∧ R a.2.1 b.2.1 ∧ a.2.2 = b.2.2)
          ∧ (R a.2.1 b.2.1 → ∀ calls,
              answers out a.1 a.2.1 calls = answers out' b.1 b.2.1 calls
                ∧ (performAll out a.1 a.2.1 calls).1.session
                  = (performAll out' b.1 b.2.1 calls).1.session
                ∧ (performAll out a.1 a.2.1 calls).1.device
                  = (performAll out' b.1 b.2.1 calls).1.device) := by
  intro a b
  have htwin : Twin a.1 b.1 := twin_of_other out out' s t hsteps hoptions hv hw
  obtain ⟨hsession, hdevice, _⟩ := present_of_forget htwin.view
  refine ⟨⟨hsession, hdevice, ?_⟩, fun R hout => ⟨?_, ?_⟩⟩
  · rw [View.availability, View.availability, hsession, hdevice]
  · intro hst
    have hswitched : a = w.tick out reading s :=
      tick_congr out s (receive_congr hsteps hoptions hv hw)
    obtain ⟨hview, hrelated, hresponse⟩ := matched_tick hout hst reading w
    rw [hswitched]
    exact ⟨hview, hrelated, hresponse⟩
  · intro hst calls
    obtain ⟨hanswers, htwins⟩ := performAll_twin hout hst htwin calls
    obtain ⟨hsession', hdevice', _⟩ := present_of_forget htwins.view
    exact ⟨hanswers, hsession', hdevice'⟩

/-- A view that has answered a step with one device, was then finished, and is saved. -/
def mappedView : View :=
  (performAll plainOutlet (fresh [⟨"Fire", .button, 0⟩, ⟨"Jump", .button, 1⟩] savingOptions) ()
    [.tick (some (buttonReading ⟨"Pad", 1⟩ false)), .tick (some (buttonReading ⟨"Pad", 1⟩ true)),
      .apply .done, .refresh]).1

/-- A view that has passed a step with another device, and has not drawn that. -/
def passingView : View :=
  (performAll plainOutlet (fresh [⟨"Fire", .button, 0⟩, ⟨"Jump", .button, 1⟩] savingOptions) ()
    [.tick (some (buttonReading ⟨"Stick", 4⟩ true)), .apply .skip]).1

/-- Once both see a third device, it cannot be told any more which of them it was that had a
result. -/
theorem answers_of_thirdDevice :
    mappedView.saved = true ∧ resultAt mappedView.session 0 = some (.button 0)
      ∧ passingView.saved = false ∧ resultAt passingView.session 0 = none
      ∧ stepsOf mappedView.session = stepsOf passingView.session
      ∧ mappedView.options = passingView.options
      ∧ some ⟨"Pad", 2⟩ ≠ mappedView.device ∧ some ⟨"Pad", 2⟩ ≠ passingView.device
      ∧ Concordant plainOutlet plainOutlet (fun _ _ => True)
      ∧ ∀ calls,
          answers plainOutlet
              (mappedView.tick plainOutlet (some (buttonReading ⟨"Pad", 2⟩ true)) ()).1 () calls
            = answers plainOutlet
              (passingView.tick plainOutlet (some (buttonReading ⟨"Pad", 2⟩ true)) ()).1 () calls := by
  have hsteps : stepsOf mappedView.session = stepsOf passingView.session := rfl
  have hoptions : mappedView.options = passingView.options := rfl
  have hv : some ⟨"Pad", 2⟩ ≠ mappedView.device := by decide
  have hw : some ⟨"Pad", 2⟩ ≠ passingView.device := by decide
  have hout : Concordant plainOutlet plainOutlet (fun _ _ => True) :=
    ⟨fun _ _ _ _ => ⟨rfl, trivial⟩, fun _ _ _ _ _ => ⟨rfl, trivial⟩⟩
  have hpoll : (some (buttonReading ⟨"Pad", 2⟩ true)).map Reading.identity = some ⟨"Pad", 2⟩ := rfl
  obtain ⟨_, hfuture⟩ := answers_of_switched plainOutlet plainOutlet () () hsteps hoptions
    (hpoll ▸ hv) (hpoll ▸ hw)
  refine ⟨by decide, by decide, by decide, by decide, hsteps, hoptions, hv, hw, hout, ?_⟩
  intro calls
  exact ((hfuture _ hout).2 trivial calls).1

end PadMapping.Proofs
