import PadMapping.Proofs.View.Reaction

/-!
# Histories of a view

A program that owns a view can poll for it, apply actions to it and have it redrawn, in any
order, and it may go on after an error. A history is what such a program has done so far: the
view it has arrived at and every call on the way, with the view before and after it.

The past is ghost state. No definition of the library reads it; it is there so that a statement
about the present can say where the present comes from. The word for that is `Since`: something
started at one moment and nothing has ended it at any moment after.
-/

namespace PadMapping.Proofs

open View

variable {σ : Type}

/-- What can be asked of a view. -/
inductive Call where
  | tick (reading : Option Reading)
  | apply (a : Action)
  | refresh
deriving DecidableEq, Repr

/-- Carries out a call; an error is not the end of anything. -/
def Call.perform (out : Outlet σ) (v : View) (s : σ) : Call → View × σ
  | .tick reading => ((v.tick out reading s).1, (v.tick out reading s).2.1)
  | .apply a => ((v.apply a).1, s)
  | .refresh => ((v.refresh out s).1, (v.refresh out s).2.1)

/-- A call with the view before and after it. -/
structure Moment where
  before : View
  call : Call
  after : View
deriving DecidableEq, Repr

/-- A view among its surroundings, with all that was asked of it, last call first. -/
structure History (σ : Type) where
  view : View
  surroundings : σ
  past : List Moment

/-- The history with one more call. -/
def History.next (out : Outlet σ) (h : History σ) (c : Call) : History σ where
  view := (c.perform out h.view h.surroundings).1
  surroundings := (c.perform out h.view h.surroundings).2
  past := ⟨h.view, c, (c.perform out h.view h.surroundings).1⟩ :: h.past

/-- A view that is at the first of its steps and has seen no device. -/
def fresh (steps : List Step) (options : Options) : View := ofSession (.start steps) options

/-- An outlet on which everything can be drawn and saved, and nothing is remembered. -/
def plainOutlet : Outlet Unit where
  draw := fun _ s => (s, .ok ())
  save := fun _ _ s => (s, .ok ())

/-- A reading of a device with a single button. -/
def buttonReading (device : Identity) (pressed : Bool) : Reading := ⟨device, [pressed], []⟩

/-- The histories that begin with the view `v₀`. -/
inductive Reachable (out : Outlet σ) (v₀ : View) : History σ → Prop where
  | init (s : σ) : Reachable out v₀ ⟨v₀, s, []⟩
  | tail {h : History σ} (c : Call) : Reachable out v₀ h → Reachable out v₀ (h.next out c)

/-- The history that a list of calls makes. -/
def History.ofCalls (out : Outlet σ) (v₀ : View) (s : σ) (calls : List Call) : History σ :=
  calls.foldl (History.next out) ⟨v₀, s, []⟩

theorem reachable_foldl {out : Outlet σ} {v₀ : View} (calls : List Call) :
    ∀ {h : History σ}, Reachable out v₀ h →
      Reachable out v₀ (calls.foldl (History.next out) h) := by
  induction calls with
  | nil => intro h hr; exact hr
  | cons c calls ih => intro h hr; exact ih (.tail c hr)

/-- Every order of calls is a history. -/
theorem reachable_ofCalls (out : Outlet σ) (v₀ : View) (s : σ) (calls : List Call) :
    Reachable out v₀ (History.ofCalls out v₀ s calls) :=
  reachable_foldl calls (.init s)

/-! ## What one call does -/

/-- What a call can come to. A redraw only changes what is noted about drawing and saving, and it
notes a saved result only for a finished view. -/
inductive Performed (v : View) : Call → View → Prop where
  | tick {reading : Option Reading} {v' : View} {saved : Bool} :
      Received v reading v' → (saved = true → v'.saved = true ∨ Finished v') →
      Performed v (.tick reading) { drawn v' with saved }
  | apply {a : Action} {v' : View} {changed : Bool} :
      v.apply a = (v', .ok changed) → Applied v a v' changed → Performed v (.apply a) v'
  | refresh {saved : Bool} :
      (saved = true → v.saved = true ∨ Finished v) → Performed v .refresh { drawn v with saved }

/-- **What a call does**, on any display and with any folder. -/
theorem perform_cases (out : Outlet σ) (v : View) (s : σ) (c : Call) :
    Performed v c (c.perform out v s).1 := by
  cases c with
  | tick reading =>
      obtain ⟨v', hv', hcases⟩ := receive_cases reading v
      obtain ⟨saved, hview, hsaved⟩ := refresh_view out v' s
      have h : ((Call.tick reading).perform out v s).1 = { drawn v' with saved } := by
        rw [Call.perform, tick_of_receive out s hv', ← hview]
      exact h ▸ .tick hcases hsaved
  | apply a =>
      obtain ⟨v', changed, hv', hcases⟩ := apply_cases a v
      have h : ((Call.apply a).perform out v s).1 = v' := by rw [Call.perform, hv']
      exact h ▸ .apply hv' hcases
  | refresh =>
      obtain ⟨saved, hview, hsaved⟩ := refresh_view out v s
      have h : (Call.refresh.perform out v s).1 = { drawn v with saved } := hview
      exact h ▸ .refresh hsaved

theorem performed_options {v v' : View} {c : Call} (h : Performed v c v') :
    v'.options = v.options := by
  cases h with
  | @tick _ v' _ hrec _ =>
      have hopt : v'.options = v.options := received_options hrec
      exact hopt
  | apply _ happ => exact applied_options happ
  | refresh => rfl

/-- **Induction over histories.** What holds of a view and its past at the start, and is kept by
whatever one call can come to, holds of every history. -/
theorem reachable_induction {out : Outlet σ} {v₀ : View} {P : View → List Moment → Prop}
    (init : P v₀ [])
    (step : ∀ {v v' : View} {c : Call} {past : List Moment},
      P v past → Performed v c v' → P v' (⟨v, c, v'⟩ :: past))
    {h : History σ} (hr : Reachable out v₀ h) : P h.view h.past := by
  induction hr with
  | init s => exact init
  | @tail h c _ ih => exact step ih (perform_cases out h.view h.surroundings c)

/-- Nobody changes the options of a view. -/
theorem options_reachable {out : Outlet σ} {v₀ : View} {h : History σ}
    (hr : Reachable out v₀ h) : h.view.options = v₀.options :=
  reachable_induction (P := fun v _ => v.options = v₀.options) rfl
    (fun ih hcases => (performed_options hcases).trans ih) hr

/-! ## Moments -/

/-- At this moment a poll recorded a control for step `i`. -/
def RecordsAt (i : Nat) (m : Moment) : Prop :=
  ∃ reading control, m.call = .tick reading ∧ Records m.before reading i control

/-- At this moment a poll recorded, for step `i`, a control that `r` shows. -/
def RecordsFrom (r : Reading) (i : Nat) (m : Moment) : Prop :=
  ∃ control, m.call = .tick (some r) ∧ Records m.before (some r) i control

/-- At this moment a poll changed the connection that the view keeps to. -/
def Switches (m : Moment) : Prop :=
  (∃ reading, m.call = .tick reading) ∧ m.after.device ≠ m.before.device

/-- At this moment the user dropped all results. -/
def Restarts (m : Moment) : Prop :=
  m.call = .apply .reset ∧ (m.before.apply .reset).2 = .ok true

theorem recordsAt_iff {i : Nat} {m : Moment} : RecordsAt i m ↔ ∃ r, RecordsFrom r i m := by
  constructor
  · intro hx
    obtain ⟨reading, control, hcall, hrec⟩ := hx
    obtain ⟨r, rfl, _⟩ := records_iff.mp hrec
    exact ⟨r, control, hcall, hrec⟩
  · intro hx
    obtain ⟨r, control, hcall, hrec⟩ := hx
    exact ⟨some r, control, hcall, hrec⟩

@[simp] theorem recordsAt_tick {i : Nat} {v v' : View} {reading : Option Reading} :
    RecordsAt i ⟨v, .tick reading, v'⟩ ↔ ∃ control, Records v reading i control := by
  constructor
  · intro hx
    obtain ⟨reading', control, hcall, hrec⟩ := hx
    injection hcall with hreading
    exact ⟨control, hreading ▸ hrec⟩
  · intro hx
    obtain ⟨control, hrec⟩ := hx
    exact ⟨reading, control, rfl, hrec⟩

@[simp] theorem not_recordsAt_apply {i : Nat} {v v' : View} {a : Action} :
    ¬ RecordsAt i ⟨v, .apply a, v'⟩ := by
  intro hx
  obtain ⟨reading, control, hcall, _⟩ := hx
  exact Call.noConfusion hcall

@[simp] theorem not_recordsAt_refresh {i : Nat} {v v' : View} :
    ¬ RecordsAt i ⟨v, .refresh, v'⟩ := by
  intro hx
  obtain ⟨reading, control, hcall, _⟩ := hx
  exact Call.noConfusion hcall

@[simp] theorem switches_tick {v v' : View} {reading : Option Reading} :
    Switches ⟨v, .tick reading, v'⟩ ↔ v'.device ≠ v.device := by
  simp [Switches]

@[simp] theorem not_switches_apply {v v' : View} {a : Action} :
    ¬ Switches ⟨v, .apply a, v'⟩ := by
  simp [Switches]

@[simp] theorem not_switches_refresh {v v' : View} : ¬ Switches ⟨v, .refresh, v'⟩ := by
  simp [Switches]

@[simp] theorem not_restarts_tick {v v' : View} {reading : Option Reading} :
    ¬ Restarts ⟨v, .tick reading, v'⟩ := by
  simp [Restarts]

@[simp] theorem not_restarts_refresh {v v' : View} : ¬ Restarts ⟨v, .refresh, v'⟩ := by
  simp [Restarts]

theorem restarts_apply {v v' w : View} {a : Action} {changed : Bool}
    (h : v.apply a = (v', .ok changed)) :
    Restarts ⟨v, .apply a, w⟩ ↔ a = .reset ∧ changed = true := by
  constructor
  · intro hx
    obtain ⟨hcall, happlied⟩ := hx
    injection hcall with ha
    subst ha
    dsimp only at happlied
    rw [h] at happlied
    injection happlied with hchanged
    exact ⟨rfl, hchanged⟩
  · intro hx
    obtain ⟨rfl, rfl⟩ := hx
    exact ⟨rfl, by rw [h]⟩

/-! ## Polls that record nothing -/

theorem not_records_of_idle {v : View} {reading : Option Reading} {i : Nat} {control : Control}
    (hidle : ∀ r, reading = some r → Idle v r) : ¬ Records v reading i control := by
  intro hrec
  obtain ⟨r, hr, _, hd, hw, ha, _⟩ := records_iff.mp hrec
  rcases hidle r hr with h | ⟨h, _⟩ | ⟨_, h⟩
  · rw [hd] at h; exact absurd h (by simp)
  · rw [hw] at h; exact absurd h (by simp)
  · rw [ha] at h; exact absurd h (by simp)

theorem not_records_of_waiting {v : View} {reading : Option Reading} {i : Nat} {control : Control}
    (hwait : v.session.waiting = true) : ¬ Records v reading i control := by
  intro hrec
  obtain ⟨r, _, _, _, hw, _⟩ := records_iff.mp hrec
  rw [hwait] at hw
  exact absurd hw (by simp)

/-- In the poll in which a device appears nothing is recorded. -/
theorem not_records_of_other {v : View} {reading : Option Reading} {i : Nat} {control : Control}
    (hother : reading.map Reading.identity ≠ v.device) : ¬ Records v reading i control := by
  intro hrec
  obtain ⟨r, rfl, hdev, _⟩ := records_iff.mp hrec
  exact hother hdev.symm

/-! ## Since -/

/-- At some moment `start` held, and `keep` has held at every moment after it. -/
def Since (start keep : Moment → Prop) (past : List Moment) : Prop :=
  ∃ newer m older, past = newer ++ m :: older ∧ start m ∧ ∀ x ∈ newer, keep x

theorem not_since_nil {start keep : Moment → Prop} : ¬ Since start keep [] := by
  intro hx
  obtain ⟨newer, m, older, h, _⟩ := hx
  cases newer <;> simp at h

/-- `Since` looks at the last moment first: it started there, or it was kept up there. -/
theorem since_cons {start keep : Moment → Prop} {m : Moment} {past : List Moment} :
    Since start keep (m :: past) ↔ start m ∨ (keep m ∧ Since start keep past) := by
  constructor
  · intro hx
    obtain ⟨newer, m', older, h, hstart, hkeep⟩ := hx
    cases newer with
    | nil =>
        injection h with h _
        exact Or.inl (h ▸ hstart)
    | cons x newer =>
        injection h with hx h
        subst hx
        exact Or.inr ⟨hkeep m List.mem_cons_self, newer, m', older, h, hstart,
          fun y hy => hkeep y (List.mem_cons_of_mem _ hy)⟩
  · intro hx
    rcases hx with hstart | ⟨hkeep, newer, m', older, h, hstart, hnewer⟩
    · exact ⟨[], m, past, rfl, hstart, by simp⟩
    · refine ⟨m :: newer, m', older, by rw [h]; rfl, hstart, ?_⟩
      intro y hy
      rcases List.mem_cons.mp hy with rfl | hy
      · exact hkeep
      · exact hnewer y hy

end PadMapping.Proofs
