import PadMapping.Proofs.View.Faults

/-!
# A frame that could not be drawn is lost

A redraw takes the session as drawn before it hands the frame to the display. If the display then
fails, the mark is gone although nobody has seen the frame, and the view is one in which there is
nothing left to draw. What becomes of the frame is up to the events that come next: an event that
changes the view draws the view as it is then, and every other event draws nothing, also on a
display that works again (`redrawn_iff_moved`).

It is worst for the frame that shows a result. Polls cannot change a finished view, except that
another connection starts it over. So neither is that frame drawn again by any poll, nor is the
result saved that would have been saved after it (`unsaved_after_failedFrame`).
-/

namespace PadMapping.Proofs

open View

variable {σ τ : Type}

/-- The view has no use for an event: a poll that shows the same connection and nothing to act on,
or an action that is not possible. -/
def Ignores (v : View) : Event → Prop
  | .poll reading => reading.map Reading.identity = v.device ∧ ∀ r, reading = some r → Idle v r
  | .action a => v.availability.allows a = false ∨ a = .quit

/-- The view, its surroundings and all responses after events that come one after the other. An
error is not the end of anything. -/
def handleAll (out : Outlet σ) (v : View) (s : σ) : List Event → View × σ × List Response
  | [] => (v, s, [])
  | e :: events =>
    let next := v.handle out e s
    let last := handleAll out next.1 next.2.1 events
    (last.1, last.2.1, next.2.2 :: last.2.2)

/-! ## The failed redraw -/

/-- A redraw that fails has handed over the frame of the view, and leaves nothing to draw. -/
theorem lost_of_refresh {out : Outlet σ} {v : View} {s : σ} {fault : View.Fault}
    (h : (v.refresh out s).2.2.result = .error fault) :
    ∃ f cause, (v.refresh out s).2.2 = ⟨some f, none, .error (.display cause)⟩
      ∧ (v.refresh out s).1 = drawn v ∧ (drawn v).frame = .ok f := by
  cases hstale : v.session.stale with
  | false =>
      rw [refresh_of_fresh out s hstale] at h
      exact absurd h (by simp [Response.quiet])
  | true =>
      obtain ⟨f, hf, _⟩ := frame_ok v
      rcases hdraw : out.draw f s with ⟨s', cause | _⟩
      · rw [refresh_of_failed hstale hf hdraw]
        exact ⟨f, cause, rfl, rfl, hf⟩
      · rw [refresh_of_shown hstale hf hdraw] at h
        exact absurd h (by simp)

theorem lost_of_handle {out : Outlet σ} {v : View} {s : σ} {e : Event} {fault : View.Fault}
    (h : (v.handle out e s).2.2.result = .error fault) :
    ∃ f cause, (v.handle out e s).2.2 = ⟨some f, none, .error (.display cause)⟩
      ∧ (v.handle out e s).1 = drawn (reacted e v) ∧ (v.handle out e s).1.frame = .ok f := by
  -- an event fails in its redraw only, so there was one
  have hredraw : v.handle out e s = (reacted e v).refresh out s := by
    cases e with
    | poll reading =>
        obtain ⟨v', hv', _⟩ := receive_cases reading v
        rw [handle, tick_of_receive out s hv', reacted, hv']
    | action a =>
        obtain ⟨v', changed, hv', _⟩ := apply_cases a v
        rw [handle, act_of_apply out s hv'] at h ⊢
        cases changed with
        | true => rw [reacted, hv']; rfl
        | false => exact absurd h (by simp [Response.quiet])
  rw [hredraw] at h ⊢
  obtain ⟨f, cause, hresponse, hview, hframe⟩ := lost_of_refresh h
  exact ⟨f, cause, hresponse, hview, hview ▸ hframe⟩

/-! ## The events after it -/

/-- An event is ignored exactly if it leaves no mark. -/
theorem ignores_iff_fresh {v : View} (hfresh : v.session.stale = false) (e : Event) :
    Ignores v e ↔ (reacted e v).session.stale = false := by
  constructor
  · intro hignored
    cases e with
    | poll reading => rw [reacted, receive_of_idle hignored.1 hignored.2]; exact hfresh
    | action a => rw [reacted, apply_of_refused hignored]; exact hfresh
  · intro hreacted
    have hcases := reacted_cases e v
    have hsame := eq_of_handled hcases hreacted
    rw [hsame] at hcases
    cases e with
    | poll reading =>
        obtain ⟨v', hv', hrec⟩ := receive_cases reading v
        have hmark : v'.session.stale = false := by rwa [reacted, hv'] at hreacted
        cases hrec with
        | same hsame hidle => exact ⟨hsame, hidle⟩
        | released | recorded | switched | switchedReleased =>
            exact absurd hmark (by simp [Session.released, recorded, switched, Session.reset])
    | action a =>
        obtain ⟨v', changed, hv', happ⟩ := apply_cases a v
        have hmark : v'.session.stale = false := by rwa [reacted, hv'] at hreacted
        cases happ with
        | ignored hrefused => exact hrefused
        | skip | reset | back | done =>
            exact absurd hmark (by simp [skipped, Session.reset, Session.back, Session.finish])

theorem handle_of_ignored {v : View} (hfresh : v.session.stale = false) {e : Event}
    (h : Ignores v e) (out : Outlet σ) (s : σ) : v.handle out e s = (v, s, .quiet) := by
  have hreacted := (ignores_iff_fresh hfresh e).mp h
  rw [handle_of_fresh out e s hfresh, refresh_of_fresh out s hreacted,
    eq_of_handled (reacted_cases e v) hreacted]

/-- As long as events are ignored, nothing at all happens. -/
theorem handleAll_of_ignored {v : View} (hfresh : v.session.stale = false) (out : Outlet σ) (s : σ)
    (events : List Event) (h : ∀ e ∈ events, Ignores v e) :
    handleAll out v s events = (v, s, events.map fun _ => .quiet) := by
  induction events with
  | nil => rfl
  | cons e events ih =>
      have hrest := ih fun e' he' => h e' (List.mem_cons_of_mem e he')
      rw [handleAll, handle_of_ignored hfresh (h e List.mem_cons_self)]
      simp only [hrest, List.map_cons]

/-- The first event that is not ignored draws the view as it is after it. -/
theorem frame_of_moved {v : View} (hfresh : v.session.stale = false) {e : Event}
    (h : ¬ Ignores v e) (out : Outlet σ) (s : σ) :
    ∃ f, (v.handle out e s).2.2.frame = some f ∧ (v.handle out e s).1.frame = .ok f := by
  have hstale : (reacted e v).session.stale = true := by
    cases hs : (reacted e v).session.stale with
    | true => rfl
    | false => exact absurd ((ignores_iff_fresh hfresh e).mpr hs) h
  obtain ⟨f, hf, _⟩ := frame_ok (reacted e v)
  refine ⟨f, ?_, ?_⟩
  · rw [handle_of_fresh out e s hfresh]
    rcases hdraw : out.draw f s with ⟨s', cause | _⟩
    · rw [refresh_of_failed hstale hf hdraw]
    · rw [refresh_of_shown hstale hf hdraw]
  · obtain ⟨saved, hview, _⟩ := refresh_view out (reacted e v) s
    rw [handle_of_fresh out e s hfresh, hview]
    exact hf

/-- An event draws nothing exactly if it is ignored. -/
theorem frame_eq_none_iff {v : View} (hfresh : v.session.stale = false) (e : Event) (out : Outlet σ)
    (s : σ) : (v.handle out e s).2.2.frame = none ↔ Ignores v e := by
  constructor
  · intro hnone
    rcases Classical.em (Ignores v e) with h | h
    · exact h
    · obtain ⟨f, hf, _⟩ := frame_of_moved hfresh h out s
      rw [hf] at hnone
      exact absurd hnone (by simp)
  · intro h
    rw [handle_of_ignored hfresh h]
    rfl

/-- A poll that a finished view does not ignore shows another connection, and takes all results
away. -/
theorem dropped_of_moved {v : View} (hfin : Finished v) {reading : Option Reading}
    (h : ¬ Ignores v (.poll reading)) (out : Outlet σ) (s : σ) :
    reading.map Reading.identity ≠ v.device
      ∧ ∀ i, resultAt (v.handle out (.poll reading) s).1.session i = none := by
  obtain ⟨v', hv', hrec⟩ := receive_cases reading v
  obtain ⟨saved, hview, _⟩ := refresh_view out v' s
  have hafter : (v.handle out (.poll reading) s).1 = { drawn v' with saved } := by
    rw [handle, tick_of_receive out s hv', hview]
  rw [hafter]
  cases hrec with
  | same hsame hidle => exact absurd ⟨hsame, hidle⟩ h
  | released _ hd | recorded _ hd => rw [hfin.2] at hd; exact absurd hd (by simp)
  | switched hother => exact ⟨hother, resultAt_reset v.session⟩
  | switchedReleased hother => exact ⟨hother, resultAt_reset v.session⟩

/--
**A frame that could not be drawn is drawn with the next change, and not before.**

When an event fails, the display has failed at a frame, and this frame still shows the view as it
is. Then, on any display:

- As long as the view ignores what comes, nothing changes, nothing is drawn and nothing is saved.
- The next event draws a frame exactly if the view does not ignore it, and that frame shows the view
  as it is after this event.
- If the view was finished, so that the failed frame showed its result, the only polls that are not
  ignored show another connection, and take all results away.
-/
theorem redrawn_iff_moved {out : Outlet σ} {v : View} {s : σ} {e : Event} {fault : View.Fault}
    (hfailed : (v.handle out e s).2.2.result = .error fault) :
    let w := (v.handle out e s).1
    (∃ f cause, (v.handle out e s).2.2 = ⟨some f, none, .error (.display cause)⟩
        ∧ w.frame = .ok f)
      ∧ ∀ (τ : Type) (out' : Outlet τ) (t : τ),
        (∀ events, (∀ e' ∈ events, Ignores w e') →
            handleAll out' w t events = (w, t, events.map fun _ => .quiet))
          ∧ (∀ next, ((w.handle out' next t).2.2.frame = none ↔ Ignores w next)
            ∧ (¬ Ignores w next → ∃ f, (w.handle out' next t).2.2.frame = some f
              ∧ (w.handle out' next t).1.frame = .ok f))
          ∧ (Finished w → ∀ reading, ¬ Ignores w (.poll reading) →
            reading.map Reading.identity ≠ w.device
              ∧ ∀ i, resultAt (w.handle out' (.poll reading) t).1.session i = none) := by
  intro w
  obtain ⟨f, cause, hresponse, hview, hframe⟩ := lost_of_handle hfailed
  have hw : w = drawn (reacted e v) := hview
  have hfresh : w.session.stale = false := by rw [hw]; rfl
  refine ⟨⟨f, cause, hresponse, hframe⟩, ?_⟩
  intro τ out' t
  refine ⟨fun events => handleAll_of_ignored hfresh out' t events, ?_, ?_⟩
  · intro next
    exact ⟨frame_eq_none_iff hfresh next out' t, fun hmoved => frame_of_moved hfresh hmoved out' t⟩
  · intro hfin reading hmoved
    exact dropped_of_moved hfin hmoved out' t

/-- A display that fails at its second frame only, beside a folder that takes everything. What it
counts are the frames. -/
def failingOnce : Outlet Nat where
  draw := fun _ n => (n + 1, if n = 1 then .error .full else .ok ())
  save := fun _ _ n => (n, .ok ())

/-- A view that saves, with a device nobody touches. The user has just ended its session, which is
still to be drawn. -/
def endedUnseen : History Nat :=
  .ofCalls failingOnce (fresh [⟨"Fire", .button, 0⟩] ⟨50, defaultThreshold, some "maps"⟩) 0
    [.tick (some (buttonReading ⟨"Pad", 1⟩ false)), .apply .done]

/-- The same poll as before. -/
def samePoll : Event := .poll (some (buttonReading ⟨"Pad", 1⟩ false))

/-- When the frame with the result fails, it takes an action to see the view again, here going back
to the step. -/
theorem redrawn_of_back :
    let w := (endedUnseen.view.handle failingOnce samePoll 1).1
    (endedUnseen.view.handle failingOnce samePoll 1).2.2.result = .error (.display .full)
      ∧ Ignores w samePoll ∧ ¬ Ignores w (.action .back)
      ∧ handleAll failingOnce w 2 [samePoll, samePoll] = (w, 2, [.quiet, .quiet])
      ∧ ∃ f, (w.handle failingOnce (.action .back) 2).2.2.frame = some f
        ∧ (w.handle failingOnce (.action .back) 2).1.frame = .ok f := by
  intro w
  have hfailed : (endedUnseen.view.handle failingOnce samePoll 1).2.2.result
      = .error (.display .full) := rfl
  obtain ⟨_, hlater⟩ := redrawn_iff_moved hfailed
  obtain ⟨hquiet, hnext, _⟩ := hlater Nat failingOnce 2
  have hignored : Ignores w samePoll := (hnext samePoll).1.mp rfl
  have hmoved : ¬ Ignores w (.action .back) := by
    intro h
    rcases h with h | h
    · exact absurd h (by decide)
    · exact absurd h (by simp)
  refine ⟨hfailed, hignored, hmoved, hquiet [samePoll, samePoll] ?_, (hnext _).2 hmoved⟩
  intro e he
  have heq : e = samePoll := by simpa using he
  rw [heq]
  exact hignored

/-- **A redraw that fails is not tried again.** The frame that shows the result fails once. After
that the display works, and the next poll could draw the frame and save the result. It does neither,
although the view can be reached, is finished and has a folder to save in. -/
theorem unsaved_after_failedFrame :
    let v₀ := fresh [⟨"Fire", .button, 0⟩] ⟨50, defaultThreshold, some "maps"⟩
    let w := (endedUnseen.view.handle failingOnce samePoll endedUnseen.surroundings).1
    Reachable failingOnce v₀ endedUnseen
      ∧ (endedUnseen.view.handle failingOnce samePoll endedUnseen.surroundings).2.2.result
        = .error (.display .full)
      ∧ Finished w ∧ w.options.folder = some "maps" ∧ w.saved = false
      ∧ (∀ f n, (failingOnce.draw f (n + 2)).2 = .ok ())
      ∧ w.session.stale = false
      ∧ w.handle failingOnce samePoll 2 = (w, 2, .quiet) := by
  refine ⟨reachable_ofCalls _ _ _ _, rfl, by decide, rfl, rfl, ?_, rfl, rfl⟩
  intro f n
  simp [failingOnce]

end PadMapping.Proofs
