import PadMapping.Proofs.View.Running

/-!
# The result is saved once for each time the view finishes

A view finishes when it comes to have both a device and a finished session. That can happen in
three ways (the last control is recorded, the last step is passed, the user ends the session) and
can be undone in three (going back, starting over, another connection), so a view may finish
again and again. Every time it does, and at no other time, its result is handed over to be saved.

Two things have to be seen for that. While a view stays finished nothing makes it stale, so there
is no second redraw to save at. And once it is not finished any more nothing counts as saved, so
the next time is saved again. The note that the result is saved therefore never decides anything,
and neither does what came of saving: `handle_eq` gives the response to an event without looking
at either.
-/

namespace PadMapping.Proofs

open View

variable {σ τ : Type}

/-- The display never fails. -/
def AlwaysDraws (out : Outlet σ) : Prop := ∀ f s, (out.draw f s).2 = .ok ()

/-- What becomes of the surroundings when the frame of a response is drawn and then its export is
saved, once each. -/
def spent (out : Outlet σ) (folder : String) (response : Response) (s : σ) : σ :=
  let s := match response.frame with
    | none => s
    | some f => (out.draw f s).1
  match response.attempt with
  | none => s
  | some e => (out.save folder e s).1

/-- What a working display gets to see of an event: the frame of the reaction, if that left a mark,
and the result if the view was not finished before. -/
def responseTo (e : Event) (v : View) : Response :=
  if (reacted e v).session.stale then
    ⟨(reacted e v).frame.toOption, if Finished v then none else resultOf (reacted e v), .ok ()⟩
  else .quiet

theorem resultOf_eq_none_iff {v : View} : resultOf v = none ↔ ¬ Finished v := by
  rw [← resultOf_isSome_iff]
  cases resultOf v <;> simp

/-! ## One redraw -/

theorem due?_eq {v : View} {folder : String} (hfolder : v.options.folder = some folder)
    (f : Frame) : v.due? f = if v.saved then none else f.result.map (folder, ·) := by
  rw [due?, hfolder]
  split
  · rfl
  · cases f.result <;> rfl

/-- A redraw of a stale session on a working display draws one frame and then saves at most once,
namely the result if it is not noted as saved. -/
theorem refresh_eq {v : View} {f : Frame} {out : Outlet σ} {folder : String} (s : σ)
    (hdraw : AlwaysDraws out) (hfolder : v.options.folder = some folder)
    (hstale : v.session.stale = true) (hf : v.frame = .ok f) (hresult : f.result = resultOf v) :
    ∃ saved, v.refresh out s = ({ drawn v with saved },
      spent out folder ⟨some f, if v.saved then none else resultOf v, .ok ()⟩ s,
      ⟨some f, if v.saved then none else resultOf v, .ok ()⟩) := by
  have hshown : out.draw f s = ((out.draw f s).1, .ok ()) := by rw [← hdraw f s]
  have hdue : (drawn v).due? f = if v.saved then none else (resultOf v).map (folder, ·) := by
    rw [← hresult]
    exact due?_eq hfolder f
  rw [refresh_of_shown hstale hf hshown, store]
  cases hs : v.saved with
  | true =>
      rw [hs] at hdue
      rw [hdue]
      exact ⟨v.saved, rfl⟩
  | false =>
      rw [hs] at hdue
      rw [hdue]
      cases hres : resultOf v with
      | none => exact ⟨v.saved, rfl⟩
      | some e => exact ⟨_, rfl⟩

/-- The first frame has no device to show, so there is nothing to save yet. -/
theorem refresh_fresh {out : Outlet σ} {options : Options} {folder : String}
    (hdraw : AlwaysDraws out)
    (hfolder : options.folder = some folder) (steps : List Step) (s : σ) :
    ∃ saved, (fresh steps options).refresh out s
      = ({ drawn (fresh steps options) with saved },
        (out.draw .disconnected s).1, ⟨some .disconnected, none, .ok ()⟩) :=
  refresh_eq s hdraw hfolder rfl rfl rfl

/-! ## One event -/

/-- An event that leaves a mark does not leave a finished view finished. -/
theorem open_of_handled {steps : List Step} {v v' : View} {e : Event} (hsteps : steps ≠ [])
    (hsound : Sound steps v) (hfresh : v.session.stale = false) (h : Handled v e v')
    (hstale : v'.session.stale = true) (hfin : Finished v) : ¬ Finished v' := by
  have hpos : 0 < v.session.size := by
    rw [hsound.size_eq]
    exact List.length_pos_iff.mpr hsteps
  -- a session that starts over has steps left, because it has steps at all
  have hnew : v.session.reset.isDone = false := by
    rw [isDone_eq_false_iff]
    simpa [Session.reset, Session.size] using hpos
  have hopen : ∀ {w : View}, w.session.isDone = false → ¬ Finished w := by
    intro w hw hw'
    rw [hw'.2] at hw
    exact absurd hw (by simp)
  cases h with
  | poll hrec =>
      cases hrec with
      | same => rw [hfresh] at hstale; exact absurd hstale (by simp)
      | released _ hd | recorded _ hd => exact absurd hfin (hopen hd)
      | switched => exact hopen hnew
      | switchedReleased => exact hopen hnew
  | action happ =>
      cases happ with
      | ignored => rw [hfresh] at hstale; exact absurd hstale (by simp)
      | skip _ hd | done _ hd => exact absurd hfin (hopen hd)
      | reset => exact hopen hnew
      | back _ hc =>
          -- going back from the end reopens the last step
          refine hopen ?_
          have hbound := hsound.bound
          rw [isDone_eq_false_iff]
          show v.session.current - 1 < v.session.size
          omega

/-- An event never notes that something is saved, it only drops that note. -/
theorem saved_of_handled {v v' : View} {e : Event} (h : Handled v e v')
    (hsaved : v.saved = false) : v'.saved = false := by
  cases h with
  | poll hrec =>
      cases hrec with
      | same | released | recorded => exact hsaved
      | switched | switchedReleased => rfl
  | action happ =>
      cases happ with
      | ignored | skip | done => exact hsaved
      | reset | back => rfl

/-- **What an event does on a working display**, whatever comes of saving. -/
theorem handle_eq {out : Outlet σ} {steps : List Step} {options : Options} {folder : String}
    {p : Progress σ} (hdraw : AlwaysDraws out) (hsteps : steps ≠ [])
    (hfolder : options.folder = some folder) (hp : Running out (fresh steps options) p)
    (e : Event) :
    ∃ saved, p.view.handle out e p.surroundings
      = ({ drawn (reacted e p.view) with saved },
        spent out folder (responseTo e p.view) p.surroundings, responseTo e p.view) := by
  have hfresh := stale_running hp
  have hsound := sound_running hp
  have hcases := reacted_cases e p.view
  rw [handle_of_fresh out e p.surroundings hfresh, responseTo]
  cases hstale : (reacted e p.view).session.stale with
  | false =>
      rw [refresh_of_fresh out p.surroundings hstale]
      exact ⟨(reacted e p.view).saved, by rw [drawn_of_fresh hstale]; rfl⟩
  | true =>
      obtain ⟨f, hf, hresult⟩ := frame_ok (reacted e p.view)
      have hopt : (reacted e p.view).options = options :=
        (handled_options hcases).trans (options_running hp)
      have hfolder' : (reacted e p.view).options.folder = some folder := by rw [hopt, hfolder]
      obtain ⟨saved, hrefresh⟩ := refresh_eq p.surroundings hdraw hfolder' hstale hf hresult
      -- the note that the result is saved can be replaced by whether the view was finished before
      have hattempt : (if (reacted e p.view).saved then none else resultOf (reacted e p.view))
          = if Finished p.view then none else resultOf (reacted e p.view) := by
        by_cases hfin : Finished p.view
        · rw [if_pos hfin, resultOf_eq_none_iff.mpr
            (open_of_handled hsteps hsound hfresh hcases hstale hfin)]
          exact ite_self _
        · have hs : p.view.saved = false := by
            cases hs : p.view.saved with
            | false => rfl
            | true => exact absurd (hsound.saved hs) hfin
          rw [if_neg hfin, saved_of_handled hcases hs]
          rfl
      rw [hattempt] at hrefresh
      refine ⟨saved, ?_⟩
      rw [hrefresh, hf]
      rfl

/-- A result is handed over exactly when an event finishes a view that was not finished. -/
theorem attempt_responseTo (e : Event) (v : View) :
    (responseTo e v).attempt.isSome = true ↔ ¬ Finished v ∧ Finished (reacted e v) := by
  have hcases := reacted_cases e v
  rw [responseTo]
  cases hstale : (reacted e v).session.stale with
  | false =>
      rw [eq_of_handled hcases hstale]
      simp [Response.quiet]
  | true =>
      rw [if_pos rfl]
      by_cases hfin : Finished v
      · simp [hfin]
      · simp [hfin, resultOf_isSome_iff]

/-- The export that is handed over is the one in the frame of the same event. -/
theorem frame_of_attempt {v : View} {e : Event} {x : Export}
    (h : (responseTo e v).attempt = some x) :
    ∃ f device, (responseTo e v).frame = some f ∧ f.result = some x
      ∧ (reacted e v).device = some device ∧ x.deviceId = device.id
      ∧ x.assignments = (reacted e v).session.assignments := by
  rw [responseTo] at h ⊢
  cases hstale : (reacted e v).session.stale with
  | false => rw [hstale] at h; exact absurd h (by simp [Response.quiet])
  | true =>
      rw [hstale, if_pos rfl] at h
      rw [if_pos rfl]
      obtain ⟨f, hf, hresult⟩ := frame_ok (reacted e v)
      have hx : resultOf (reacted e v) = some x := by
        dsimp only at h
        split at h
        · exact absurd h (by simp)
        · exact h
      rw [hx] at hresult
      obtain ⟨device, hdev, hid, hrows⟩ := fields_of_result hf hresult
      exact ⟨f, device, by rw [hf]; rfl, hresult, hdev, hid, hrows⟩

/-! ## What came of saving does not matter -/

/-- The view without the note that its result is saved. -/
def forget (v : View) : View := { v with saved := false }

theorem observe_forget (r : Reading) (v : View) :
    (forget v).observe r = (v.observe r).map forget := by
  cases hd : v.session.isDone with
  | true => simp [observe, forget, hd, Except.map]
  | false =>
      cases hw : v.session.waiting with
      | true =>
          cases hn : r.isNeutral v.options.threshold <;>
            simp [observe, forget, hd, hw, hn, Except.map]
      | false =>
          cases ha : r.active? v.options.threshold with
          | none => simp [observe, forget, hd, hw, ha, Except.map]
          | some control => simp [observe, forget, hd, hw, ha, record_of_open hd, Except.map]

theorem track_forget (identity : Option Identity) (v : View) :
    (forget v).track identity = forget (v.track identity) := by
  by_cases h : identity = v.device
  · rw [track_same h]
    exact track_same h
  · rw [track_other h]
    exact track_other h

theorem apply_forget (a : Action) (v : View) :
    (forget v).apply a = (forget (v.apply a).1, (v.apply a).2) := by
  have hallow : (forget v).availability = v.availability := rfl
  have hskip : (forget v).session.skip = v.session.skip := rfl
  unfold View.apply
  rw [hallow]
  split
  · rfl
  · cases a with
    | skip =>
        dsimp only
        rw [hskip]
        cases v.session.skip <;> rfl
    | reset | back | done | quit => rfl

/-- A reaction does not depend on whether the result is saved. -/
theorem reacted_forget (e : Event) (v : View) : reacted e (forget v) = forget (reacted e v) := by
  cases e with
  | poll reading =>
      show ((forget v).receive reading).1 = forget (v.receive reading).1
      unfold receive
      rw [track_forget]
      cases reading with
      | none => rfl
      | some r =>
          simp only [observe_forget]
          cases (v.track ((some r).map Reading.identity)).observe r <;> rfl
  | action a =>
      show ((forget v).apply a).1 = forget (v.apply a).1
      rw [apply_forget]

theorem responseTo_forget (e : Event) (v : View) : responseTo e (forget v) = responseTo e v := by
  rw [responseTo, reacted_forget]
  rfl

theorem responseTo_congr {v w : View} (e : Event) (h : forget v = forget w) :
    responseTo e v = responseTo e w := by
  rw [← responseTo_forget e v, h, responseTo_forget]

theorem reacted_congr {v w : View} (e : Event) (h : forget v = forget w) :
    forget (reacted e v) = forget (reacted e w) := by
  rw [← reacted_forget e v, h, reacted_forget]

theorem present_of_forget {v w : View} (h : forget v = forget w) :
    v.session = w.session ∧ v.device = w.device ∧ v.options = w.options := by
  have hsession : (forget v).session = (forget w).session := by rw [h]
  have hdevice : (forget v).device = (forget w).device := by rw [h]
  have hoptions : (forget v).options = (forget w).options := by rw [h]
  exact ⟨hsession, hdevice, hoptions⟩

theorem result_responseTo (e : Event) (v : View) : (responseTo e v).result = .ok () := by
  rw [responseTo]
  split <;> rfl

/-- Two runs that differ in nothing but what saving came to. -/
structure Alike (p : Progress σ) (q : Progress τ) : Prop where
  view : forget p.view = forget q.view
  polls : p.polls = q.polls
  log : p.log.map (fun entry => (entry.1, entry.2.1)) = q.log.map fun entry => (entry.1, entry.2.1)

theorem Alike.present {p : Progress σ} {q : Progress τ} (h : Alike p q) :
    p.view.session = q.view.session ∧ p.view.device = q.view.device
      ∧ p.view.options = q.view.options :=
  present_of_forget h.view

theorem Alike.nextPoll {p : Progress σ} {q : Progress τ} (h : Alike p q) :
    p.nextPoll = q.nextPoll := by
  rw [Progress.nextPoll, Progress.nextPoll, h.polls, h.present.2.2]

section

variable {out : Outlet σ} {out' : Outlet τ} {steps : List Step} {options : Options}
  {folder : String} {p : Progress σ} {q : Progress τ}
variable (hdraw : AlwaysDraws out) (hdraw' : AlwaysDraws out') (hsteps : steps ≠ [])
  (hfolder : options.folder = some folder)

include hdraw hdraw' hsteps hfolder

/-- One event keeps two runs alike, and is no error in either. -/
theorem alike_note (hp : Running out (fresh steps options) p)
    (hq : Running out' (fresh steps options) q) (h : Alike p q) (time : Nat) (e : Event) :
    Alike (p.note time (p.view.handle out e p.surroundings))
        (q.note time (q.view.handle out' e q.surroundings))
      ∧ (p.note time (p.view.handle out e p.surroundings)).lastResult = .ok ()
      ∧ (q.note time (q.view.handle out' e q.surroundings)).lastResult = .ok () := by
  obtain ⟨saved, hhandle⟩ := handle_eq hdraw hsteps hfolder hp e
  obtain ⟨saved', hhandle'⟩ := handle_eq hdraw' hsteps hfolder hq e
  have hresponse := responseTo_congr e h.view
  rw [hhandle, hhandle', hresponse]
  refine ⟨⟨?_, h.polls, ?_⟩, result_responseTo e q.view, result_responseTo e q.view⟩
  · exact congrArg drawn (reacted_congr e h.view)
  · exact congrArg ((time, responseTo e q.view) :: ·) h.log

theorem alike_poll (hp : Running out (fresh steps options) p)
    (hq : Running out' (fresh steps options) q) (h : Alike p q) (schedule : Schedule) :
    Alike (p.poll out schedule) (q.poll out' schedule)
      ∧ (p.poll out schedule).lastResult = .ok () ∧ (q.poll out' schedule).lastResult = .ok () := by
  obtain ⟨hnote, hok, hok'⟩ := alike_note hdraw hdraw' hsteps hfolder hp hq h p.nextPoll
    (.poll (schedule.reading p.polls))
  have hq' : q.poll out' schedule = { q.note p.nextPoll
      (q.view.handle out' (.poll (schedule.reading p.polls)) q.surroundings) with
        polls := p.polls + 1 } := by
    rw [Progress.poll, h.nextPoll, h.polls]
    rfl
  rw [hq']
  exact ⟨⟨hnote.view, rfl, hnote.log⟩, hok, hok'⟩

theorem alike_pollUntil (schedule : Schedule) (time : Nat)
    (hp : Running out (fresh steps options) p) :
    ∀ {q : Progress τ}, Running out' (fresh steps options) q → Alike p q →
      ∃ p' q', p.pollUntil out schedule time = .ok p' ∧ q.pollUntil out' schedule time = .ok q'
        ∧ Running out (fresh steps options) p' ∧ Running out' (fresh steps options) q'
        ∧ Alike p' q' := by
  -- along the polls of the first run; the same ones are due in the second
  fun_induction Progress.pollUntil out schedule time p with
  | case1 p hdue next fault hfault =>
      intro q hq h
      obtain ⟨_, hok, _⟩ := alike_poll hdraw hdraw' hsteps hfolder hp hq h schedule
      rw [hok] at hfault
      exact absurd hfault (by simp)
  | case2 p hdue next hok ih =>
      intro q hq h
      obtain ⟨hnext, _, hok'⟩ := alike_poll hdraw hdraw' hsteps hfolder hp hq h schedule
      obtain ⟨p', q', hp', hq', hrest⟩ := ih (.poll schedule hp) (.poll schedule hq) hnext
      refine ⟨p', q', hp', ?_, hrest⟩
      rw [h.nextPoll] at hdue
      rw [Progress.pollUntil, if_pos hdue]
      simp only [hok']
      exact hq'
  | case3 p hdue =>
      intro q hq h
      refine ⟨p, q, rfl, ?_, hp, hq, h⟩
      rw [h.nextPoll] at hdue
      rw [Progress.pollUntil, if_neg hdue]

theorem alike_advance (schedule : Schedule) (actions : List (Nat × Action)) :
    ∀ {p : Progress σ} {q : Progress τ}, Running out (fresh steps options) p →
      Running out' (fresh steps options) q → Alike p q →
      Alike (p.advance out schedule actions).toProgress (q.advance out' schedule actions).toProgress
        ∧ (p.advance out schedule actions).time = (q.advance out' schedule actions).time
        ∧ (p.advance out schedule actions).result = .ok ()
        ∧ (q.advance out' schedule actions).result = .ok () := by
  induction actions with
  | nil =>
      intro p q hp hq h
      obtain ⟨p', q', hp', hq', _, _, h'⟩ :=
        alike_pollUntil hdraw hdraw' hsteps hfolder schedule schedule.close hp hq h
      rw [Progress.advance, Progress.advance, hp', hq']
      exact ⟨h', rfl, rfl, rfl⟩
  | cons next rest ih =>
      intro p q hp hq h
      obtain ⟨time, action⟩ := next
      obtain ⟨p', q', hp', hq', hrp, hrq, h'⟩ :=
        alike_pollUntil hdraw hdraw' hsteps hfolder schedule time hp hq h
      rw [Progress.advance, Progress.advance, hp', hq']
      dsimp only
      by_cases hquit : action = .quit
      · rw [if_pos hquit, if_pos hquit]
        exact ⟨h', rfl, rfl, rfl⟩
      · obtain ⟨hnext, hok, hok'⟩ :=
          alike_note hdraw hdraw' hsteps hfolder hrp hrq h' time (.action action)
        have hlast : (p'.act out time action).lastResult = .ok () := hok
        have hlast' : (q'.act out' time action).lastResult = .ok () := hok'
        rw [if_neg hquit, if_neg hquit]
        simp only [hlast, hlast']
        exact ih (.act time action hrp) (.act time action hrq) hnext

theorem alike_run (schedule : Schedule) (s : σ) (t : τ) :
    Alike (run out schedule (fresh steps options) s).toProgress
        (run out' schedule (fresh steps options) t).toProgress
      ∧ (run out schedule (fresh steps options) s).time
        = (run out' schedule (fresh steps options) t).time
      ∧ (run out schedule (fresh steps options) s).result = .ok ()
      ∧ (run out' schedule (fresh steps options) t).result = .ok () := by
  obtain ⟨saved, hrefresh⟩ := refresh_fresh hdraw hfolder steps s
  obtain ⟨saved', hrefresh'⟩ := refresh_fresh hdraw' hfolder steps t
  have hp : Running out (fresh steps options)
      (Progress.note ⟨fresh steps options, s, 0, []⟩ 0 ((fresh steps options).refresh out s)) :=
    .start s
  have hq : Running out' (fresh steps options)
      (Progress.note ⟨fresh steps options, t, 0, []⟩ 0 ((fresh steps options).refresh out' t)) :=
    .start t
  have h : Alike
      (Progress.note ⟨fresh steps options, s, 0, []⟩ 0 ((fresh steps options).refresh out s))
      (Progress.note ⟨fresh steps options, t, 0, []⟩ 0 ((fresh steps options).refresh out' t)) := by
    rw [hrefresh, hrefresh']
    exact ⟨rfl, rfl, rfl⟩
  have hok : (Progress.note ⟨fresh steps options, s, 0, []⟩ 0
      ((fresh steps options).refresh out s)).lastResult = .ok () := by rw [hrefresh]; rfl
  have hok' : (Progress.note ⟨fresh steps options, t, 0, []⟩ 0
      ((fresh steps options).refresh out' t)).lastResult = .ok () := by rw [hrefresh']; rfl
  unfold run
  simp only [hok, hok']
  exact alike_advance hdraw hdraw' hsteps hfolder schedule schedule.actions hp hq h

end

/--
**The result is saved exactly once for each time the view finishes.**

On a display that never fails, with a folder to save in and at least one step: an event hands over
an export exactly if it takes the view from not finished to finished. The export is the one in the
frame of that event. It has the id of the present device and the rows of the session, one for each
step. The surroundings are asked to draw that frame and to save that export once each. No event is
an error. And what saving comes to is of no consequence: two runs on outlets that save differently
have the same frames, the same attempts and the same results at the same times, and end with the
same session and device.
-/
theorem attempt_iff_finishes {out : Outlet σ} {steps : List Step} {options : Options}
    {folder : String} (hdraw : AlwaysDraws out) (hsteps : steps ≠ [])
    (hfolder : options.folder = some folder) :
    (∀ p, Running out (fresh steps options) p → ∀ e,
        let after := p.view.handle out e p.surroundings
        (after.2.2.attempt.isSome = true ↔ ¬ Finished p.view ∧ Finished after.1)
          ∧ (∀ x, after.2.2.attempt = some x →
              ∃ f device, after.2.2.frame = some f ∧ f.result = some x
                ∧ after.1.device = some device ∧ x.deviceId = device.id
                ∧ x.assignments = after.1.session.assignments
                ∧ x.assignments.map Assignment.step = steps)
          ∧ after.2.1 = spent out folder after.2.2 p.surroundings
          ∧ after.2.2.result = .ok ())
      ∧ (∀ s, ((fresh steps options).refresh out s).2.2.attempt = none)
      ∧ (∀ schedule s,
          Running out (fresh steps options)
            (run out schedule (fresh steps options) s).toProgress)
      ∧ ∀ (τ : Type) (out' : Outlet τ), AlwaysDraws out' → ∀ schedule s t,
          let a := run out schedule (fresh steps options) s
          let b := run out' schedule (fresh steps options) t
          a.result = .ok () ∧ b.result = .ok () ∧ a.time = b.time ∧ a.polls = b.polls
            ∧ a.view.session = b.view.session ∧ a.view.device = b.view.device
            ∧ a.log.map (fun entry => (entry.1, entry.2.1))
              = b.log.map fun entry => (entry.1, entry.2.1) := by
  refine ⟨?_, ?_, fun schedule s => running_run out schedule _ s, ?_⟩
  · intro p hp e after
    obtain ⟨saved, hafter⟩ := handle_eq hdraw hsteps hfolder hp e
    have heq : after = _ := hafter
    rw [heq]
    refine ⟨attempt_responseTo e p.view, ?_, rfl, result_responseTo e p.view⟩
    intro x hx
    obtain ⟨f, device, hf, hshown, hdev, hid, hrows⟩ := frame_of_attempt hx
    have hall : x.assignments.map Assignment.step = steps := by
      rw [hrows]
      exact (handled_steps (reacted_cases e p.view)).trans (sound_running hp).steps
    exact ⟨f, device, hf, hshown, hdev, hid, hrows, hall⟩
  · intro s
    obtain ⟨saved, hrefresh⟩ := refresh_fresh hdraw hfolder steps s
    rw [hrefresh]
  · intro τ out' hdraw' schedule s t a b
    obtain ⟨h, htime, hok, hok'⟩ := alike_run hdraw hdraw' hsteps hfolder schedule s t
    exact ⟨hok, hok', htime, h.polls, h.present.1, h.present.2.1, h.log⟩

/-- A display that always works beside a folder in which nothing can be saved, with a count of the
attempts. -/
def fullFolder : Outlet Nat where
  draw := fun _ n => (n, .ok ())
  save := fun _ _ n => (n + 1, .error .full)

/-- A view that saves to such a folder, after a first poll that found a device nobody touches. -/
def savingView : Progress Nat :=
  let v := fresh [⟨"Fire", .button, 0⟩] ⟨50, defaultThreshold, some "maps"⟩
  (Progress.note ⟨v, 0, 0, []⟩ 0 (v.refresh fullFolder 0)).poll fullFolder
    ⟨fun _ => some (buttonReading ⟨"Pad", 1⟩ false), [], 0⟩

/-- Ending the session makes one attempt, also if that one fails: for this device, with a row
without a control. -/
theorem attempt_of_done :
    AlwaysDraws fullFolder
      ∧ Running fullFolder (fresh [⟨"Fire", .button, 0⟩] ⟨50, defaultThreshold, some "maps"⟩)
        savingView
      ∧ ¬ Finished savingView.view
      ∧ Finished (savingView.view.handle fullFolder (.action .done) 0).1
      ∧ (∃ f, (savingView.view.handle fullFolder (.action .done) 0).2.2.attempt
          = some ⟨"Pad", [⟨⟨"Fire", .button, 0⟩, none⟩]⟩
        ∧ (savingView.view.handle fullFolder (.action .done) 0).2.2.frame = some f
        ∧ f.result = some ⟨"Pad", [⟨⟨"Fire", .button, 0⟩, none⟩]⟩)
      ∧ (savingView.view.handle fullFolder (.action .done) 0).2.2.result = .ok ()
      ∧ (savingView.view.handle fullFolder (.action .done) 0).2.1 = 1 := by
  have hdraw : AlwaysDraws fullFolder := fun _ _ => rfl
  have hsteps : ([⟨"Fire", .button, 0⟩] : List Step) ≠ [] := List.cons_ne_nil _ _
  have hfolder : (⟨50, defaultThreshold, some "maps"⟩ : Options).folder = some "maps" := rfl
  have hp : Running fullFolder
      (fresh [⟨"Fire", .button, 0⟩] ⟨50, defaultThreshold, some "maps"⟩) savingView :=
    .poll _ (.start 0)
  have hopen : ¬ Finished savingView.view := by decide
  have hfin : Finished (savingView.view.handle fullFolder (.action .done) 0).1 := by decide
  obtain ⟨hevent, _⟩ := attempt_iff_finishes hdraw hsteps hfolder
  obtain ⟨hiff, hexport, _, hok⟩ := hevent savingView hp (.action .done)
  obtain ⟨x, hx⟩ := Option.isSome_iff_exists.mp (hiff.mpr ⟨hopen, hfin⟩)
  obtain ⟨f, device, hf, hshown, hdev, hid, hrows, _⟩ := hexport x hx
  have hpad : x = ⟨"Pad", [⟨⟨"Fire", .button, 0⟩, none⟩]⟩ := by
    obtain ⟨deviceId, assignments⟩ := x
    dsimp only at hid hrows
    injection hdev with hdev
    rw [hid, hrows, ← hdev]
    rfl
  rw [hpad] at hx hshown
  exact ⟨hdraw, hp, hopen, hfin, ⟨f, hx, hf, hshown⟩, hok, by decide⟩

end PadMapping.Proofs
