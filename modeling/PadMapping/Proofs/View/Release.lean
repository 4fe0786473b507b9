import PadMapping.Proofs.View.History

/-!
# One press answers one step

A control that is held down while the view goes from step to step must not fill them all. The
flag `waiting` is what prevents it, and this module says what the flag is worth: while it is
down, there is a poll in the past at which the connection of now had all its controls released,
and since that poll nothing was recorded, the connection did not change and nobody reset the
session.

The flag goes down in one place only, so the argument is that whatever could spoil the statement
puts the flag up again. Going back, passing a step and finishing leave the flag alone, and they
do not spoil the statement either.
-/

namespace PadMapping.Proofs

open View

variable {σ : Type}

/-- A poll that saw every control of the connection released, and recorded nothing. -/
def Release (threshold : Single) (identity : Identity) (m : Moment) : Prop :=
  ∃ r, m.call = .tick (some r) ∧ r.isNeutral threshold = true ∧ r.identity = identity
    ∧ ∀ i, ¬ RecordsAt i m

/-- Nothing was recorded, the connection stayed, and the results were not dropped. -/
def Calm (m : Moment) : Prop := (∀ i, ¬ RecordsAt i m) ∧ ¬ Switches m ∧ ¬ Restarts m

/-- While the view does not wait, it has seen its connection released, and all was calm since. -/
def ReleaseSeen (v : View) (past : List Moment) : Prop :=
  v.session.waiting = false →
    ∃ identity, v.device = some identity
      ∧ Since (Release v.options.threshold identity) Calm past

theorem releaseSeen_fresh (steps : List Step) (options : Options) :
    ReleaseSeen (fresh steps options) [] := by
  intro hw
  exact absurd hw (by simp [fresh, ofSession, Session.start])

/-! ## What puts the flag down and what leaves it down -/

/-- An action that leaves the flag down was no reset. -/
theorem calm_of_apply {v v' : View} {a : Action} {changed : Bool}
    (happly : v.apply a = (v', .ok changed)) (hcases : Applied v a v' changed)
    (hw : v'.session.waiting = false) : Calm ⟨v, .apply a, v'⟩ := by
  refine ⟨fun i => not_recordsAt_apply, not_switches_apply, ?_⟩
  rw [restarts_apply happly]
  intro hx
  obtain ⟨rfl, rfl⟩ := hx
  cases hcases with
  | reset => exact absurd hw (by simp [Session.reset])

theorem release_of_tick {v v' : View} {r : Reading} {threshold : Single}
    (hn : r.isNeutral threshold = true)
    (hquiet : v.session.waiting = true ∨ (some r).map Reading.identity ≠ v.device) :
    Release threshold r.identity ⟨v, .tick (some r), v'⟩ := by
  refine ⟨r, rfl, hn, rfl, ?_⟩
  intro i
  rw [recordsAt_tick]
  intro hx
  obtain ⟨control, hrec⟩ := hx
  rcases hquiet with h | h
  · exact not_records_of_waiting h hrec
  · exact not_records_of_other h hrec

/-! ## The invariant -/

/-- When the flag was down before and the moment was calm, the old release still counts. -/
theorem releaseSeen_kept {v v' : View} {past : List Moment} {c : Call} (hinv : ReleaseSeen v past)
    (hw : v.session.waiting = false) (hdev : v'.device = v.device)
    (hopt : v'.options = v.options) (hcalm : Calm ⟨v, c, v'⟩) :
    ReleaseSeen v' (⟨v, c, v'⟩ :: past) := by
  intro _
  obtain ⟨identity, hid, hsince⟩ := hinv hw
  rw [hopt]
  exact ⟨identity, hdev.trans hid, since_cons.mpr (Or.inr ⟨hcalm, hsince⟩)⟩

theorem releaseSeen_step {v v' : View} {past : List Moment} {c : Call}
    (hinv : ReleaseSeen v past) (hcases : Performed v c v') :
    ReleaseSeen v' (⟨v, c, v'⟩ :: past) := by
  have hopt := performed_options hcases
  intro hw
  cases hcases with
  | @tick reading v' saved hrec _ =>
      cases hrec with
      | same _ hidle =>
          exact releaseSeen_kept hinv hw rfl rfl
            (by simp [Calm, drawn, not_records_of_idle hidle]) hw
      | released hdev _ hwait hn =>
          exact ⟨_, hdev, since_cons.mpr (Or.inl (release_of_tick hn (Or.inl hwait)))⟩
      | switchedReleased hother hn =>
          exact ⟨_, rfl, since_cons.mpr (Or.inl (release_of_tick hn (Or.inr hother)))⟩
      -- a new session waits, and so does a session that has just recorded
      | recorded => exact absurd hw (by simp [drawn, recorded])
      | switched => exact absurd hw (by simp [drawn, switched, Session.reset])
  | apply happly happ =>
      have hcalm := calm_of_apply happly happ hw
      have hwas : v.session.waiting = false := by
        cases happ with
        | ignored | skip | back | done => exact hw
        | reset => exact absurd hw (by simp [Session.reset])
      exact releaseSeen_kept hinv hwas (applied_device happ) hopt hcalm hw
  | refresh _ => exact releaseSeen_kept hinv hw rfl rfl (by simp [Calm, drawn]) hw

theorem releaseSeen_reachable {out : Outlet σ} {steps : List Step} {options : Options}
    {h : History σ} (hr : Reachable out (fresh steps options) h) : ReleaseSeen h.view h.past :=
  reachable_induction (releaseSeen_fresh steps options) releaseSeen_step hr

/--
**One press answers one step.**

A poll records only on the connection the view already kept to, and only if that connection was
seen with all controls released by an earlier poll that recorded nothing. Strictly between the two
polls nothing was recorded, the connection did not change and the results were not dropped.
-/
theorem released_since_of_records {out : Outlet σ} {steps : List Step} {options : Options}
    {h : History σ} (hr : Reachable out (fresh steps options) h) {reading : Option Reading}
    {i : Nat} {control : Control} (hrec : Records h.view reading i control) :
    ∃ r, reading = some r ∧ h.view.device = some r.identity
      ∧ Since (Release options.threshold r.identity) Calm h.past := by
  obtain ⟨r, hreading, hdev, _, hw, _⟩ := records_iff.mp hrec
  obtain ⟨identity, hid, hsince⟩ := releaseSeen_reachable hr hw
  rw [hdev] at hid
  injection hid with hid
  subst hid
  rw [options_reachable hr] at hsince
  exact ⟨r, hreading, hdev, hsince⟩

/-- A press that is held for one more poll and while its step is passed, then a release. -/
def heldThenReleased : List Call :=
  [.tick (some (buttonReading ⟨"Pad", 1⟩ false)), .tick (some (buttonReading ⟨"Pad", 1⟩ true)),
    .tick (some (buttonReading ⟨"Pad", 1⟩ true)), .apply .skip,
    .tick (some (buttonReading ⟨"Pad", 1⟩ false)), .apply .back]

/-- The press after the release is recorded, for the step that was gone back to. -/
theorem released_since_of_second_press :
    let h := History.ofCalls plainOutlet (fresh standardSteps .standard) () heldThenReleased
    let r := buttonReading ⟨"Pad", 1⟩ true
    Reachable plainOutlet (fresh standardSteps .standard) h
      ∧ Records h.view (some r) 1 (.button 0)
      ∧ h.view.device = some r.identity
      ∧ Since (Release defaultThreshold r.identity) Calm h.past := by
  have hr := reachable_ofCalls plainOutlet (fresh standardSteps .standard) () heldThenReleased
  have hrec : Records (History.ofCalls plainOutlet (fresh standardSteps .standard) ()
      heldThenReleased).view (some (buttonReading ⟨"Pad", 1⟩ true)) 1 (.button 0) := ⟨rfl, rfl, rfl⟩
  obtain ⟨r, hreading, hdev, hsince⟩ := released_since_of_records hr hrec
  injection hreading with hreading
  subst hreading
  exact ⟨hr, hrec, hdev, hsince⟩

end PadMapping.Proofs
