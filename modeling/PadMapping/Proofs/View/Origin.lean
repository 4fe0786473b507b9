import PadMapping.Proofs.View.History

/-!
# Where the results come from

The rows of a session say which control answers which step, but not on which device it was
pressed. This module gives every row its origin: the reading of the latest poll that recorded for
that step since the results were last dropped. A row without an origin is empty, a row with one
holds the control that its origin shows, and the origin belongs to the connection of now.

The last part is what makes an export honest. The view throws all results away whenever the
connection changes, so two connections never have rows at the same time, even if they are two
connections of one device.
-/

namespace PadMapping.Proofs

open View

variable {σ : Type}

/-- Nothing replaced or dropped the result of step `i`. -/
def Keeps (i : Nat) (m : Moment) : Prop := ¬ RecordsAt i m ∧ ¬ Switches m ∧ ¬ Restarts m

/-- `r` is the reading of the latest poll that recorded for step `i`, and since that poll the
results were not dropped. -/
def Origin (i : Nat) (r : Reading) (past : List Moment) : Prop :=
  Since (RecordsFrom r i) (Keeps i) past

/-- What the result of step `i` has to do with its origin. -/
structure Explained (i : Nat) (v : View) (past : List Moment) : Prop where
  /-- A result has an origin. -/
  origin : (resultAt v.session i).isSome = true → ∃ r, Origin i r past
  /-- An origin shows the result. -/
  shown : ∀ r, Origin i r past →
    ∃ control, r.active? v.options.threshold = some control
      ∧ resultAt v.session i = some control
  /-- An origin belongs to the connection of now. -/
  device : ∀ r, Origin i r past → v.device = some r.identity

theorem explained_fresh (steps : List Step) (options : Options) (i : Nat) :
    Explained i (fresh steps options) [] where
  origin := by
    intro h
    rw [show (fresh steps options).session = Session.start steps from rfl, resultAt_start] at h
    exact absurd h (by simp)
  shown := fun r h => absurd h not_since_nil
  device := fun r h => absurd h not_since_nil

/-! ## The three things that can happen to a row -/

section

variable {v v' : View} {m : Moment} {past : List Moment} {i : Nat}

theorem origin_kept {r : Reading} (hkeep : Keeps i m) :
    Origin i r (m :: past) ↔ Origin i r past := by
  rw [Origin, since_cons]
  constructor
  · intro hx
    rcases hx with hrec | ⟨_, hsince⟩
    · exact absurd (recordsAt_iff.mpr ⟨r, hrec⟩) hkeep.1
    · exact hsince
  · intro hsince
    exact Or.inr ⟨hkeep, hsince⟩

/-- A moment that keeps a row keeps its origin. -/
theorem explained_kept (hinv : Explained i v past) (hkeep : Keeps i m)
    (hres : resultAt v'.session i = resultAt v.session i) (hdev : v'.device = v.device)
    (hopt : v'.options = v.options) : Explained i v' (m :: past) := by
  refine ⟨?_, ?_, ?_⟩
  · intro hsome
    rw [hres] at hsome
    obtain ⟨r, horigin⟩ := hinv.origin hsome
    exact ⟨r, (origin_kept hkeep).mpr horigin⟩
  · intro r horigin
    rw [hres, hopt]
    exact hinv.shown r ((origin_kept hkeep).mp horigin)
  · intro r horigin
    rw [hdev]
    exact hinv.device r ((origin_kept hkeep).mp horigin)

/-- A moment that empties a row leaves it without an origin. -/
theorem explained_dropped (hrec : ¬ RecordsAt i m) (hdrop : Switches m ∨ Restarts m)
    (hres : resultAt v'.session i = none) : Explained i v' (m :: past) := by
  have hnone : ∀ r, ¬ Origin i r (m :: past) := by
    intro r
    rw [Origin, since_cons]
    intro hx
    rcases hx with hrec' | ⟨hkeep, _⟩
    · exact hrec (recordsAt_iff.mpr ⟨r, hrec'⟩)
    · rcases hdrop with hd | hd
      · exact hkeep.2.1 hd
      · exact hkeep.2.2 hd
  refine ⟨?_, fun r horigin => absurd horigin (hnone r), fun r horigin => absurd horigin (hnone r)⟩
  intro hsome
  rw [hres] at hsome
  exact absurd hsome (by simp)

/-- A moment that fills a row is its origin. -/
theorem explained_recorded {r : Reading} {control : Control} (hrec : RecordsFrom r i m)
    (hactive : r.active? v'.options.threshold = some control)
    (hres : resultAt v'.session i = some control) (hdev : v'.device = some r.identity) :
    Explained i v' (m :: past) := by
  -- the moment itself is later than every older origin
  have honly : ∀ r', Origin i r' (m :: past) → r' = r := by
    intro r'
    rw [Origin, since_cons]
    intro hx
    rcases hx with ⟨_, hcall', _⟩ | ⟨hkeep, _⟩
    · obtain ⟨_, hcall, _⟩ := hrec
      rw [hcall] at hcall'
      injection hcall' with hr
      injection hr with hr
      exact hr.symm
    · exact absurd (recordsAt_iff.mpr ⟨r, hrec⟩) hkeep.1
  refine ⟨?_, ?_, ?_⟩
  · intro _
    exact ⟨r, since_cons.mpr (Or.inl hrec)⟩
  · intro r' horigin
    rw [honly r' horigin]
    exact ⟨control, hactive, hres⟩
  · intro r' horigin
    rw [honly r' horigin]
    exact hdev

end

/-! ## The invariant -/

theorem explained_tick {v v' : View} {past : List Moment} {i : Nat} {reading : Option Reading}
    (saved : Bool) (hinv : Explained i v past) (hrec : Received v reading v') :
    Explained i { drawn v' with saved } (⟨v, .tick reading, { drawn v' with saved }⟩ :: past) := by
  cases hrec with
  | same _ hidle =>
      refine explained_kept hinv ?_ rfl rfl rfl
      simp [Keeps, drawn, not_records_of_idle hidle]
  | released _ _ hwait _ =>
      refine explained_kept hinv ?_ rfl rfl rfl
      simp [Keeps, drawn, not_records_of_waiting hwait]
  | @recorded r control hdev hd hw ha =>
      have hrecords : Records v (some r) v.session.current control :=
        records_iff.mpr ⟨r, rfl, hdev, hd, hw, ha, rfl⟩
      by_cases hi : i = v.session.current
      · refine explained_recorded ⟨control, rfl, hi ▸ hrecords⟩ ha ?_ hdev
        show resultAt (recorded v.session control) i = some control
        rw [resultAt_recorded hd, if_pos hi]
      · refine explained_kept hinv ?_ ?_ rfl rfl
        · -- another step is the current one, so this poll is not about row `i`
          have hother : ∀ c, ¬ Records v (some r) i c := by
            intro c hc
            obtain ⟨_, _, _, _, _, _, hcur⟩ := records_iff.mp hc
            exact hi hcur.symm
          simp [Keeps, drawn, hother]
        · show resultAt (recorded v.session control) i = resultAt v.session i
          rw [resultAt_recorded hd, if_neg hi]
  | switched hother =>
      refine explained_dropped ?_ (Or.inl ?_) (resultAt_reset _ i)
      · simp [not_records_of_other hother]
      · simpa [drawn, switched] using hother
  | @switchedReleased r hother _ =>
      have hother' : (some r).map Reading.identity ≠ v.device := hother
      refine explained_dropped ?_ (Or.inl ?_) (resultAt_reset _ i)
      · simp [not_records_of_other hother']
      · simpa [drawn, switched] using hother

theorem explained_apply {v v' : View} {past : List Moment} {i : Nat} {a : Action} {changed : Bool}
    (hinv : Explained i v past) (happly : v.apply a = (v', .ok changed))
    (happ : Applied v a v' changed) : Explained i v' (⟨v, .apply a, v'⟩ :: past) := by
  -- a reset that was not possible drops nothing, so it is no different from other actions
  by_cases hreset : a = .reset ∧ changed = true
  · have hrestarts : Restarts ⟨v, .apply a, v'⟩ := (restarts_apply happly).mpr hreset
    obtain ⟨rfl, rfl⟩ := hreset
    refine explained_dropped not_recordsAt_apply (Or.inr hrestarts) ?_
    cases happ with
    | reset => exact resultAt_reset _ i
  · refine explained_kept hinv ?_ ?_ (applied_device happ) (applied_options happ)
    · refine ⟨not_recordsAt_apply, not_switches_apply, ?_⟩
      intro hrestarts
      exact hreset ((restarts_apply happly).mp hrestarts)
    · cases happ with
      | ignored | skip | back | done => rfl
      | reset => exact absurd ⟨rfl, rfl⟩ hreset

theorem explained_step {v v' : View} {past : List Moment} {c : Call} {i : Nat}
    (hinv : Explained i v past) (hcases : Performed v c v') :
    Explained i v' (⟨v, c, v'⟩ :: past) := by
  cases hcases with
  | tick hrec _ => exact explained_tick _ hinv hrec
  | apply happly happ => exact explained_apply hinv happly happ
  | refresh _ => exact explained_kept hinv (by simp [Keeps, drawn]) rfl rfl rfl

theorem explained_reachable {out : Outlet σ} {steps : List Step} {options : Options}
    {h : History σ} (hr : Reachable out (fresh steps options) h) (i : Nat) :
    Explained i h.view h.past :=
  reachable_induction (explained_fresh steps options i) explained_step hr

/--
**Every result comes from the device that the export names.**

A step has a result exactly if some poll recorded for it since the results were last dropped. The
result is the control that the reading of the latest such poll shows, and that reading came from
the connection of now. An export has the id of that connection and the rows of the session, so all
of it was read from the one connection whose id it bears.
-/
theorem result_of_latest_poll {out : Outlet σ} {steps : List Step} {options : Options}
    {h : History σ} (hr : Reachable out (fresh steps options) h) :
    (∀ i, (resultAt h.view.session i).isSome = true ↔ ∃ r, Origin i r h.past)
      ∧ (∀ i r, Origin i r h.past →
          resultAt h.view.session i = r.active? options.threshold
            ∧ h.view.device = some r.identity)
      ∧ ∀ f e, h.view.frame = .ok f → f.result = some e →
          ∃ device, h.view.device = some device ∧ e.deviceId = device.id
            ∧ e.assignments = h.view.session.assignments
            ∧ ∀ i a control, e.assignments[i]? = some a → a.control = some control →
                ∃ r, Origin i r h.past ∧ r.identity = device
                  ∧ r.active? options.threshold = some control := by
  have hopt := options_reachable hr
  have hiff : ∀ i, (resultAt h.view.session i).isSome = true ↔ ∃ r, Origin i r h.past := by
    intro i
    constructor
    · exact (explained_reachable hr i).origin
    · intro hx
      obtain ⟨r, horigin⟩ := hx
      obtain ⟨control, _, hres⟩ := (explained_reachable hr i).shown r horigin
      rw [hres]
      rfl
  have hshown : ∀ i r, Origin i r h.past →
      resultAt h.view.session i = r.active? options.threshold
        ∧ h.view.device = some r.identity := by
    intro i r horigin
    obtain ⟨control, hactive, hres⟩ := (explained_reachable hr i).shown r horigin
    rw [hopt] at hactive
    exact ⟨hres.trans hactive.symm, (explained_reachable hr i).device r horigin⟩
  refine ⟨hiff, hshown, ?_⟩
  intro f e hf he
  obtain ⟨device, hdev, hid, hrows⟩ := fields_of_result hf he
  refine ⟨device, hdev, hid, hrows, ?_⟩
  intro i a control ha hcontrol
  rw [hrows] at ha
  have hres : resultAt h.view.session i = some control := by
    rw [resultAt, ha, ← hcontrol]
    rfl
  obtain ⟨r, horigin⟩ := (hiff i).mp (by rw [hres]; rfl)
  obtain ⟨hactive, hid⟩ := hshown i r horigin
  rw [hdev] at hid
  injection hid with hid
  exact ⟨r, horigin, hid.symm, hactive.symm.trans hres⟩

/-- A device that answers the first step, comes back as a new connection, answers it again, and
then has the session finished. -/
def reconnectedThenDone : List Call :=
  [.tick (some (buttonReading ⟨"Pad", 1⟩ false)), .tick (some (buttonReading ⟨"Pad", 1⟩ true)),
    .tick none, .tick (some (buttonReading ⟨"Pad", 2⟩ false)),
    .tick (some (buttonReading ⟨"Pad", 2⟩ true)), .apply .done]

/-- The first step's result in the export is the one of the second connection, and all other rows
are empty. -/
theorem result_of_second_connection :
    let h := History.ofCalls plainOutlet (fresh standardSteps .standard) () reconnectedThenDone
    Reachable plainOutlet (fresh standardSteps .standard) h
      ∧ ∃ r, Origin 0 r h.past ∧ resultAt h.view.session 0 = r.active? defaultThreshold
        ∧ r.identity = ⟨"Pad", 2⟩
        ∧ ∃ f e, h.view.frame = .ok f ∧ f.result = some e ∧ e.deviceId = "Pad"
          ∧ e.assignments.map Assignment.control
            = some (.button 0) :: List.replicate 20 none := by
  have hr := reachable_ofCalls plainOutlet (fresh standardSteps .standard) () reconnectedThenDone
  obtain ⟨hiff, hshown, hexport⟩ := result_of_latest_poll hr
  obtain ⟨r, horigin⟩ := (hiff 0).mp rfl
  obtain ⟨hactive, hdev⟩ := hshown 0 r horigin
  injection hdev with hid
  obtain ⟨device, hnow, hdevice, hrows, _⟩ := hexport _ _ rfl rfl
  injection hnow with hnow
  refine ⟨hr, r, horigin, hactive, hid.symm, _, _, rfl, rfl, ?_, ?_⟩
  · rw [hdevice, ← hnow]
    rfl
  · rw [hrows]
    rfl

end PadMapping.Proofs
