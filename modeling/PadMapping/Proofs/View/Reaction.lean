import PadMapping.Proofs.Session
import PadMapping.View.Basic

/-!
# How a view reacts

Everything that happens to a view is a poll, an action, or a redraw. Each of the three is given
here as a short list of cases, with the guards that were passed on the way. All invariants of
views are proved from these lists, never by opening the definitions again.

* `receive_cases`: a poll leaves the view alone, ends the waiting, or records a control, all on
  the connection it keeps to; or it changes the connection and starts the session over, which may
  end the waiting at once but never records.
* `apply_cases`: an action is ignored, or does the one thing it stands for.
* `refresh_of_shown`, `refresh_of_failed`, `refresh_of_fresh`: a redraw hands one frame to the
  display if the session is stale, and nothing at all otherwise.

None of them fails by itself: a view never asks its session for what the session refuses.
-/

namespace PadMapping.Proofs

open View

variable {σ : Type}

/-- The view with its session replaced by that of another connection, not begun yet. -/
def switched (identity : Option Identity) (v : View) : View :=
  { v with device := identity, session := v.session.reset, saved := false }

theorem track_same {v : View} {identity : Option Identity} (h : identity = v.device) :
    v.track identity = v := by
  rw [track, if_pos h]

theorem track_other {v : View} {identity : Option Identity} (h : identity ≠ v.device) :
    v.track identity = switched identity v := by
  rw [track, if_neg h]
  rfl

/-! ## Polls -/

/-- The session has no use for the reading: it is finished, it waits and something is still
held, or nothing is pressed. -/
def Idle (v : View) (r : Reading) : Prop :=
  v.session.isDone = true
    ∨ (v.session.waiting = true ∧ r.isNeutral v.options.threshold = false)
    ∨ (v.session.waiting = false ∧ r.active? v.options.threshold = none)

/-- What taking the outcome of a poll can come to. -/
inductive Received (v : View) : Option Reading → View → Prop where
  /-- Nothing changed. -/
  | same {reading : Option Reading} :
      reading.map Reading.identity = v.device → (∀ r, reading = some r → Idle v r) →
      Received v reading v
  /-- All controls were seen released. -/
  | released {r : Reading} :
      v.device = some r.identity → v.session.isDone = false → v.session.waiting = true →
      r.isNeutral v.options.threshold = true →
      Received v (some r) { v with session := v.session.released }
  /-- A control was recorded for the current step. -/
  | recorded {r : Reading} {control : Control} :
      v.device = some r.identity → v.session.isDone = false → v.session.waiting = false →
      r.active? v.options.threshold = some control →
      Received v (some r) { v with session := recorded v.session control }
  /-- Another connection than before, or none any more. -/
  | switched {reading : Option Reading} :
      reading.map Reading.identity ≠ v.device →
      (∀ r, reading = some r → Idle (switched (some r.identity) v) r) →
      Received v reading (switched (reading.map Reading.identity) v)
  /-- Another connection than before, with all controls released. -/
  | switchedReleased {r : Reading} :
      some r.identity ≠ v.device → r.isNeutral v.options.threshold = true →
      Received v (some r)
        { switched (some r.identity) v with session := v.session.reset.released }

theorem observe_of_idle {v : View} {r : Reading} (h : Idle v r) : v.observe r = .ok v := by
  cases hd : v.session.isDone with
  | true => simp [observe, hd]
  | false =>
      rcases h with h | ⟨hw, hn⟩ | ⟨hw, ha⟩
      · rw [hd] at h
        exact absurd h (by simp)
      · simp [observe, hd, hw, hn]
      · simp [observe, hd, hw, ha]

/-- The session goes through the reading only as far as its guards let it. -/
theorem observe_cases (r : Reading) (v : View) :
    (Idle v r ∧ v.observe r = .ok v)
      ∨ (v.session.isDone = false ∧ v.session.waiting = true
        ∧ r.isNeutral v.options.threshold = true
        ∧ v.observe r = .ok { v with session := v.session.released })
      ∨ ∃ control, v.session.isDone = false ∧ v.session.waiting = false
        ∧ r.active? v.options.threshold = some control
        ∧ v.observe r = .ok { v with session := recorded v.session control } := by
  cases hd : v.session.isDone with
  | true =>
      have hidle : Idle v r := Or.inl hd
      left; exact ⟨hidle, observe_of_idle hidle⟩
  | false =>
      cases hw : v.session.waiting with
      | true =>
          cases hn : r.isNeutral v.options.threshold with
          | true => right; left; simp [observe, hd, hw, hn]
          | false =>
              have hidle : Idle v r := Or.inr (Or.inl ⟨hw, hn⟩)
              left; exact ⟨hidle, observe_of_idle hidle⟩
      | false =>
          cases ha : r.active? v.options.threshold with
          | none =>
              have hidle : Idle v r := Or.inr (Or.inr ⟨hw, ha⟩)
              left; exact ⟨hidle, observe_of_idle hidle⟩
          | some control =>
              right; right
              refine ⟨control, rfl, rfl, rfl, ?_⟩
              simp [observe, hd, hw, ha, record_of_open hd, Except.map]

/-- A poll on the connection of now that the session has no use for changes nothing. -/
theorem receive_of_idle {v : View} {reading : Option Reading}
    (hsame : reading.map Reading.identity = v.device)
    (hidle : ∀ r, reading = some r → Idle v r) : v.receive reading = (v, .ok ()) := by
  unfold receive
  rw [track_same hsame]
  cases reading with
  | none => rfl
  | some r => simp only [observe_of_idle (hidle r rfl)]

/-- A poll that changes the connection does not look at what was before. -/
theorem receive_of_other {v : View} {reading : Option Reading}
    (hother : reading.map Reading.identity ≠ v.device) :
    v.receive reading = (switched (reading.map Reading.identity) v).receive reading := by
  have hsame : (switched (reading.map Reading.identity) v).track (reading.map Reading.identity)
      = switched (reading.map Reading.identity) v := track_same rfl
  unfold receive
  rw [track_other hother, hsame]

/-- **What a poll does.** It never fails, and it does one of five things. -/
theorem receive_cases (reading : Option Reading) (v : View) :
    ∃ v', v.receive reading = (v', .ok ()) ∧ Received v reading v' := by
  by_cases hsame : reading.map Reading.identity = v.device
  · cases reading with
    | none => exact ⟨v, receive_of_idle hsame (by simp), .same hsame (by simp)⟩
    | some r =>
        have hdev : v.device = some r.identity := hsame.symm
        rcases observe_cases r v with ⟨hi, _⟩ | ⟨hd, hw, hn, h⟩ | ⟨control, hd, hw, ha, h⟩
        · have hidle : ∀ r', some r = some r' → Idle v r' := fun _ hr => Option.some.inj hr ▸ hi
          exact ⟨v, receive_of_idle hsame hidle, .same hsame hidle⟩
        · exact ⟨_, by rw [receive, track_same hsame]; simp only [h], .released hdev hd hw hn⟩
        · exact ⟨_, by rw [receive, track_same hsame]; simp only [h], .recorded hdev hd hw ha⟩
  · have hother := receive_of_other hsame
    cases reading with
    | none => exact ⟨_, hother.trans (receive_of_idle rfl (by simp)), .switched hsame (by simp)⟩
    | some r =>
        rcases observe_cases r (switched (some r.identity) v)
          with ⟨hi, _⟩ | ⟨_, _, hn, h⟩ | ⟨_, _, hw, _, _⟩
        · have hidle : ∀ r', some r = some r' → Idle (switched (some r.identity) v) r' :=
            fun _ hr => Option.some.inj hr ▸ hi
          exact ⟨_, hother.trans (receive_of_idle rfl hidle), .switched hsame hidle⟩
        · refine ⟨_, ?_, .switchedReleased hsame hn⟩
          rw [receive, track_other hsame]
          simp only [Option.map_some, h]
          rfl
        · -- a session that starts over waits, so nothing can be recorded yet
          exact absurd hw (by simp [switched, Session.reset])

/-- The outcome of a poll records `control` for step `i`: that step is the current one, and
afterwards the one behind it is, while the step has `control` as its result. -/
def Records (v : View) (reading : Option Reading) (i : Nat) (control : Control) : Prop :=
  v.session.current = i ∧ (v.receive reading).1.session.current = i + 1
    ∧ resultAt (v.receive reading).1.session i = some control

/-- **When a poll records.** The connection is the one kept to, the session is not finished and
does not wait, and the reading shows the control. -/
theorem records_iff {v : View} {reading : Option Reading} {i : Nat} {control : Control} :
    Records v reading i control ↔
      ∃ r, reading = some r ∧ v.device = some r.identity ∧ v.session.isDone = false
        ∧ v.session.waiting = false ∧ r.active? v.options.threshold = some control
        ∧ v.session.current = i := by
  obtain ⟨v', hv', hcases⟩ := receive_cases reading v
  rw [Records, hv']
  constructor
  · intro hx
    obtain ⟨rfl, hnext, hres⟩ := hx
    -- only one of the five cases moves on by one step
    cases hcases with
    | same => exact absurd hnext (Nat.ne_of_lt (Nat.lt_succ_self _))
    | released => exact absurd hnext (Nat.ne_of_lt (Nat.lt_succ_self _))
    | switched => exact absurd hnext (Nat.succ_ne_zero _).symm
    | switchedReleased => exact absurd hnext (Nat.succ_ne_zero _).symm
    | @recorded r control' hdev hd hw ha =>
        rw [resultAt_recorded hd, if_pos rfl] at hres
        injection hres with hres
        subst hres
        exact ⟨r, rfl, hdev, hd, hw, ha, rfl⟩
  · intro hx
    obtain ⟨r, rfl, hdev, hd, hw, ha, hcur⟩ := hx
    have hsame : (some r).map Reading.identity = v.device := by simp [hdev]
    refine ⟨hcur, ?_⟩
    cases hcases with
    | same _ hi =>
        rcases hi r rfl with h | ⟨h, _⟩ | ⟨_, h⟩
        · rw [hd] at h; exact absurd h (by simp)
        · rw [hw] at h; exact absurd h (by simp)
        · rw [ha] at h; exact absurd h (by simp)
    | released _ _ hw' => rw [hw] at hw'; exact absurd hw' (by simp)
    | switched h => exact absurd hsame h
    | switchedReleased h => exact absurd hsame h
    | recorded _ _ _ ha' =>
        rw [ha] at ha'
        injection ha' with ha'
        subst ha'
        rw [← hcur]
        exact ⟨rfl, by rw [resultAt_recorded hd, if_pos rfl]⟩

/-- After a poll the view keeps to the connection of that poll. -/
theorem received_device {v v' : View} {reading : Option Reading} (h : Received v reading v') :
    v'.device = reading.map Reading.identity := by
  cases h with
  | same hsame _ => exact hsame.symm
  | released hdev | recorded hdev => exact hdev
  | switched | switchedReleased => rfl

theorem received_options {v v' : View} {reading : Option Reading} (h : Received v reading v') :
    v'.options = v.options := by
  cases h <;> rfl

theorem received_steps {v v' : View} {reading : Option Reading} (h : Received v reading v') :
    stepsOf v'.session = stepsOf v.session := by
  cases h with
  | same | released => rfl
  | recorded => exact stepsOf_recorded _ _
  | switched | switchedReleased => exact stepsOf_reset _

/-! ## Actions -/

/-- What applying an action can come to, and whether it says that it changed the session. -/
inductive Applied (v : View) : Action → View → Bool → Prop where
  /-- The action is not possible, or it is none that the session knows. -/
  | ignored {a : Action} :
      v.availability.allows a = false ∨ a = .quit → Applied v a v false
  | skip : v.device.isSome = true → v.session.isDone = false →
      Applied v .skip { v with session := skipped v.session } true
  | reset : v.device.isSome = true → v.session.current ≠ 0 →
      Applied v .reset { v with session := v.session.reset, saved := false } true
  | back : v.device.isSome = true → v.session.current ≠ 0 →
      Applied v .back { v with session := v.session.back, saved := false } true
  | done : v.device.isSome = true → v.session.isDone = false →
      Applied v .done { v with session := v.session.finish } true

/-- **What is possible.** Without a device only quitting is. -/
theorem allows_eq (v : View) (a : Action) :
    v.availability.allows a = match a with
      | .quit => true
      | .skip | .done => v.device.isSome && !v.session.isDone
      | .reset | .back => v.device.isSome && v.session.current != 0 := by
  cases hdev : v.device <;> cases a <;>
    simp [availability, Availability.ofSession, Availability.allows, Availability.nothing, hdev]

theorem apply_of_refused {v : View} {a : Action}
    (h : v.availability.allows a = false ∨ a = .quit) : v.apply a = (v, .ok false) := by
  rcases h with h | rfl
  · simp [apply, h]
  · simp [apply, Availability.allows]

/-- **What an action does.** It never fails, and it is either ignored or does its one thing. -/
theorem apply_cases (a : Action) (v : View) :
    ∃ v' changed, v.apply a = (v', .ok changed) ∧ Applied v a v' changed := by
  cases hallow : v.availability.allows a with
  | false => exact ⟨v, false, apply_of_refused (Or.inl hallow), .ignored (Or.inl hallow)⟩
  | true =>
      have hguard := allows_eq v a
      rw [hallow] at hguard
      cases a with
      | quit => exact ⟨v, false, apply_of_refused (Or.inr rfl), .ignored (Or.inr rfl)⟩
      | skip =>
          obtain ⟨hdev, hd⟩ : v.device.isSome = true ∧ v.session.isDone = false := by
            simpa using hguard.symm
          exact ⟨_, true, by simp [apply, hallow, skip_of_open hd], .skip hdev hd⟩
      | done =>
          obtain ⟨hdev, hd⟩ : v.device.isSome = true ∧ v.session.isDone = false := by
            simpa using hguard.symm
          exact ⟨_, true, by simp [apply, hallow], .done hdev hd⟩
      | reset =>
          obtain ⟨hdev, hc⟩ : v.device.isSome = true ∧ v.session.current ≠ 0 := by
            simpa using hguard.symm
          exact ⟨_, true, by simp [apply, hallow], .reset hdev hc⟩
      | back =>
          obtain ⟨hdev, hc⟩ : v.device.isSome = true ∧ v.session.current ≠ 0 := by
            simpa using hguard.symm
          exact ⟨_, true, by simp [apply, hallow], .back hdev hc⟩

theorem applied_device {v v' : View} {a : Action} {changed : Bool}
    (h : Applied v a v' changed) : v'.device = v.device := by
  cases h <;> rfl

theorem applied_options {v v' : View} {a : Action} {changed : Bool}
    (h : Applied v a v' changed) : v'.options = v.options := by
  cases h <;> rfl

theorem applied_steps {v v' : View} {a : Action} {changed : Bool}
    (h : Applied v a v' changed) : stepsOf v'.session = stepsOf v.session := by
  cases h with
  | reset => exact stepsOf_reset _
  | ignored | skip | back | done => rfl

/-! ## Frames -/

/-- The view has a device and its session is finished. -/
def Finished (v : View) : Prop := v.device.isSome = true ∧ v.session.isDone = true

instance (v : View) : Decidable (Finished v) :=
  inferInstanceAs (Decidable (v.device.isSome = true ∧ v.session.isDone = true))

/-- The result a frame shows: that of the session, once the view is finished. -/
def resultOf (v : View) : Option Export :=
  match v.device with
  | none => none
  | some device => if v.session.isDone then some (.ofSession device.id v.session) else none

theorem resultOf_isSome_iff {v : View} : (resultOf v).isSome = true ↔ Finished v := by
  unfold resultOf Finished
  cases v.device with
  | none => simp
  | some device => cases v.session.isDone <;> simp

/-- **There is always a frame**, and it shows the result exactly when the view is finished. -/
theorem frame_ok (v : View) : ∃ f, v.frame = .ok f ∧ f.result = resultOf v := by
  unfold View.frame resultOf
  cases v.device with
  | none => exact ⟨_, rfl, rfl⟩
  | some device =>
      -- only a finished session has no step to name, and there the name is not asked for
      have hins : ∃ text, Frame.instructionFor v.session = .ok text := by
        cases hd : v.session.isDone with
        | true => exact ⟨_, by rw [Frame.instructionFor, if_pos hd]⟩
        | false =>
            obtain ⟨step, _, hname⟩ := currentName_of_open hd
            rw [Frame.instructionFor, if_neg (by simp [hd]), hname]
            split
            · exact ⟨_, rfl⟩
            · exact ⟨_, rfl⟩
      obtain ⟨text, htext⟩ := hins
      exact ⟨_, by simp only [Frame.build, htext]; rfl, rfl⟩

theorem deviceId_ofSession (deviceId : String) (s : Session) :
    (Export.ofSession deviceId s).deviceId = deviceId := rfl

theorem assignments_ofSession (deviceId : String) (s : Session) :
    (Export.ofSession deviceId s).assignments = s.assignments := rfl

/-- A frame with a result belongs to a device, and shows all rows of the session. -/
theorem eq_ofSession_of_result {v : View} {f : Frame} {e : Export} (hf : v.frame = .ok f)
    (he : f.result = some e) :
    ∃ device, v.device = some device ∧ e = .ofSession device.id v.session := by
  obtain ⟨f', hf', hresult⟩ := frame_ok v
  rw [hf] at hf'
  injection hf' with hf'
  subst hf'
  rw [he, resultOf] at hresult
  cases hdev : v.device with
  | none => rw [hdev] at hresult; exact absurd hresult (by simp)
  | some device =>
      rw [hdev] at hresult
      dsimp only at hresult
      split at hresult
      · injection hresult with hresult
        exact ⟨device, rfl, hresult⟩
      · exact absurd hresult (by simp)

/-- What the result in a frame consists of. -/
theorem fields_of_result {v : View} {f : Frame} {e : Export} (hf : v.frame = .ok f)
    (he : f.result = some e) :
    ∃ device, v.device = some device ∧ e.deviceId = device.id
      ∧ e.assignments = v.session.assignments := by
  obtain ⟨device, hdev, rfl⟩ := eq_ofSession_of_result hf he
  exact ⟨device, hdev, deviceId_ofSession _ _, assignments_ofSession _ _⟩

/-- While a session is ready to record, the frame names the device and the current step. -/
theorem frame_asking {v : View} {device : Identity} {f : Frame} (hdev : v.device = some device)
    (hd : v.session.isDone = false) (hw : v.session.waiting = false) (hf : v.frame = .ok f) :
    f.connection = device.id
      ∧ ∃ step, (stepsOf v.session)[v.session.current]? = some step
        ∧ f.instruction = "Press " ++ step.name := by
  obtain ⟨step, hstep, hname⟩ := currentName_of_open hd
  have hins : Frame.instructionFor v.session = .ok ("Press " ++ step.name) := by
    rw [Frame.instructionFor, if_neg (by simp [hd]), if_neg (by simp [hw]), hname]
    rfl
  rw [View.frame, hdev] at hf
  simp only [Frame.build, hins] at hf
  injection hf with hf
  subst hf
  exact ⟨rfl, step, hstep, rfl⟩

/-! ## Redraws -/

/-- The view with its session taken as drawn. -/
def drawn (v : View) : View := { v with session := { v.session with stale := false } }

theorem drawn_of_fresh {v : View} (h : v.session.stale = false) : drawn v = v := by
  rw [drawn, ← h]

theorem refresh_of_fresh {v : View} (out : Outlet σ) (s : σ) (h : v.session.stale = false) :
    v.refresh out s = (v, s, .quiet) := by
  have hq : v.refresh out s = (drawn v, s, .quiet) := by
    simp only [refresh, Session.takeStale, h, Bool.not_false, if_true]
    rfl
  rw [hq, drawn_of_fresh h]

/-- **What a redraw does when the display fails.** The session counts as drawn all the same, and
nothing is saved. -/
theorem refresh_of_failed {v : View} {f : Frame} {out : Outlet σ} {s s' : σ} {fault : FileFault}
    (h : v.session.stale = true) (hf : v.frame = .ok f)
    (hdraw : out.draw f s = (s', .error fault)) :
    v.refresh out s = (drawn v, s', ⟨some f, none, .error (.display fault)⟩) := by
  have hf' : (drawn v).frame = .ok f := hf
  unfold drawn at hf'
  simp only [refresh, Session.takeStale, h, Bool.not_true, Bool.false_eq_true, if_false, hf', hdraw]
  rfl

/-- **What a redraw does when the display works.** One frame is shown, and the result is saved if
that is due. -/
theorem refresh_of_shown {v : View} {f : Frame} {out : Outlet σ} {s s' : σ}
    (h : v.session.stale = true) (hf : v.frame = .ok f) (hdraw : out.draw f s = (s', .ok ())) :
    v.refresh out s = (((drawn v).store out f s').1, ((drawn v).store out f s').2.1,
      ⟨some f, ((drawn v).store out f s').2.2, .ok ()⟩) := by
  have hf' : (drawn v).frame = .ok f := hf
  unfold drawn at hf'
  simp only [refresh, Session.takeStale, h, Bool.not_true, Bool.false_eq_true, if_false, hf', hdraw]
  rfl

/-- Saving is noted only for a frame that has a result. -/
theorem store_view (out : Outlet σ) (f : Frame) (v : View) (s : σ) :
    ∃ saved, (v.store out f s).1 = { v with saved }
      ∧ (saved = true → v.saved = true ∨ f.result.isSome = true) := by
  unfold store
  split
  · exact ⟨v.saved, rfl, Or.inl⟩
  · rename_i folder e hdue
    refine ⟨_, rfl, fun _ => Or.inr ?_⟩
    rw [due?] at hdue
    split at hdue
    · exact absurd hdue (by simp)
    · cases hfolder : v.options.folder with
      | none => rw [hfolder] at hdue; exact absurd hdue (by simp)
      | some _ =>
          rw [hfolder] at hdue
          cases hresult : f.result with
          | none => rw [hresult] at hdue; exact absurd hdue (by simp)
          | some _ => rfl

/-- Whatever display and folder do, a redraw takes the session as drawn and keeps all else but
the note that the result is saved, which it makes only for a finished view. -/
theorem refresh_view (out : Outlet σ) (v : View) (s : σ) :
    ∃ saved, (v.refresh out s).1 = { drawn v with saved }
      ∧ (saved = true → v.saved = true ∨ Finished v) := by
  cases h : v.session.stale with
  | false => exact ⟨v.saved, by rw [refresh_of_fresh out s h, drawn_of_fresh h], Or.inl⟩
  | true =>
      obtain ⟨f, hf, hresult⟩ := frame_ok v
      rcases hdraw : out.draw f s with ⟨s', _ | _⟩
      · exact ⟨v.saved, by rw [refresh_of_failed h hf hdraw]; rfl, Or.inl⟩
      · rw [refresh_of_shown h hf hdraw]
        obtain ⟨saved, hview, hsaved⟩ := store_view out f (drawn v) s'
        refine ⟨saved, hview, fun hs => (hsaved hs).imp id ?_⟩
        intro hsome
        rw [hresult] at hsome
        exact resultOf_isSome_iff.mp hsome

/-! ## Events -/

theorem tick_of_receive {v v' : View} {reading : Option Reading} (out : Outlet σ) (s : σ)
    (h : v.receive reading = (v', .ok ())) : v.tick out reading s = v'.refresh out s := by
  simp only [tick, h]

/-- A poll that the session has no use for is quiet if there is nothing left to draw. -/
theorem tick_of_idle {v : View} {reading : Option Reading} (out : Outlet σ) (s : σ)
    (hsame : reading.map Reading.identity = v.device) (hidle : ∀ r, reading = some r → Idle v r)
    (hfresh : v.session.stale = false) : v.tick out reading s = (v, s, .quiet) := by
  rw [tick_of_receive out s (receive_of_idle hsame hidle), refresh_of_fresh out s hfresh]

theorem act_of_apply {v v' : View} {a : Action} {changed : Bool} (out : Outlet σ) (s : σ)
    (h : v.apply a = (v', .ok changed)) :
    v.act out a s = if changed then v'.refresh out s else (v', s, .quiet) := by
  cases changed <;> simp [act, h]

end PadMapping.Proofs
