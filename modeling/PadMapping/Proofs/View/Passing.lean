import PadMapping.Proofs.View.Origin

/-!
# Steps that are passed

Skipping passes the current step, finishing passes all steps that are left. Neither looks at the
results, so a step keeps what was recorded for it when it is passed. On the way forward that is
nothing. But the user may have gone back, and going back keeps the result of the step it reopens:
from then on a step can be passed with a result.

What is passed is therefore not the same as what is without a result. This module says how far the
two agree: always as long as the user has not gone back since the results were last dropped, and
otherwise for those steps for which no poll has recorded since then.
-/

namespace PadMapping.Proofs

open View

variable {σ : Type}

/-- The steps that an action passes. -/
def Passes (s : Session) (i : Nat) : Action → Prop
  | .skip => i = s.current
  | .done => s.current ≤ i
  | .reset | .back | .quit => False

/-- Whatever an action passes is not behind the current step. -/
theorem Passes.current_le {s : Session} {i : Nat} {a : Action} (h : Passes s i a) :
    s.current ≤ i := by
  cases a with
  | skip => exact Nat.le_of_eq h.symm
  | done => exact h
  | reset | back | quit => exact h.elim

/-- Passing steps touches no result. -/
theorem resultAt_of_passes {v v' : View} {i : Nat} {a : Action} (hpass : Passes v.session i a)
    (happly : v.apply a = (v', .ok true)) : resultAt v'.session i = resultAt v.session i := by
  obtain ⟨w, changed, hw, hcases⟩ := apply_cases a v
  rw [happly] at hw
  injection hw with hv hchanged
  subst hv
  cases hcases with
  | ignored | skip | done => rfl
  | reset | back => exact hpass.elim

/-! ## Going back -/

/-- At this moment the user went back to the step before. -/
def GoesBack (m : Moment) : Prop :=
  m.call = .apply .back ∧ (m.before.apply .back).2 = .ok true

/-- At this moment the results were not dropped. -/
def KeepsAll (m : Moment) : Prop := ¬ Switches m ∧ ¬ Restarts m

/-- The user has gone back since the results were last dropped. -/
def Reopened (past : List Moment) : Prop := Since GoesBack KeepsAll past

/-- Unless the user has gone back, nothing is recorded from the current step on. -/
def EmptyAhead (v : View) (past : List Moment) : Prop :=
  ¬ Reopened past → ∀ i, v.session.current ≤ i → resultAt v.session i = none

theorem emptyAhead_fresh (steps : List Step) (options : Options) :
    EmptyAhead (fresh steps options) [] :=
  fun _ i _ => resultAt_start steps i

section

variable {v v' : View} {c : Call} {past : List Moment}

/-- A moment that moves the current step only forward, and records only behind it, leaves what is
ahead as it was. -/
theorem emptyAhead_forward (hinv : EmptyAhead v past) (hkeep : KeepsAll ⟨v, c, v'⟩)
    (hcur : v.session.current ≤ v'.session.current)
    (hres : ∀ i, v'.session.current ≤ i → resultAt v'.session i = resultAt v.session i) :
    EmptyAhead v' (⟨v, c, v'⟩ :: past) := by
  intro hback i hi
  have hback' : ¬ Reopened past := fun h => hback (since_cons.mpr (Or.inr ⟨hkeep, h⟩))
  rw [hres i hi]
  exact hinv hback' i (Nat.le_trans hcur hi)

/-- A moment that drops the results leaves nothing ahead. -/
theorem emptyAhead_dropped (hres : ∀ i, resultAt v'.session i = none) :
    EmptyAhead v' (⟨v, c, v'⟩ :: past) :=
  fun _ i _ => hres i

end

theorem emptyAhead_tick {v v' : View} {past : List Moment} {reading : Option Reading}
    (saved : Bool) (hinv : EmptyAhead v past) (hrec : Received v reading v') :
    EmptyAhead { drawn v' with saved } (⟨v, .tick reading, { drawn v' with saved }⟩ :: past) := by
  cases hrec with
  | same | released =>
      exact emptyAhead_forward hinv (by simp [KeepsAll, drawn]) (Nat.le_refl _) fun _ _ => rfl
  | @recorded r control _ hd =>
      refine emptyAhead_forward hinv (by simp [KeepsAll, drawn]) (Nat.le_succ _) ?_
      intro i hi
      have hne : i ≠ v.session.current := by
        have : v.session.current + 1 ≤ i := hi
        omega
      show resultAt (recorded v.session control) i = resultAt v.session i
      rw [resultAt_recorded hd, if_neg hne]
  | switched | switchedReleased => exact emptyAhead_dropped (resultAt_reset _)

theorem emptyAhead_apply {v v' : View} {past : List Moment} {a : Action} {changed : Bool}
    (hinv : EmptyAhead v past) (happly : v.apply a = (v', .ok changed))
    (happ : Applied v a v' changed) : EmptyAhead v' (⟨v, .apply a, v'⟩ :: past) := by
  have hkeep (h : ¬ (a = .reset ∧ changed = true)) : KeepsAll ⟨v, .apply a, v'⟩ :=
    ⟨not_switches_apply, fun hr => h ((restarts_apply happly).mp hr)⟩
  cases happ with
  | ignored => exact emptyAhead_forward hinv (hkeep (by simp)) (Nat.le_refl _) fun _ _ => rfl
  | skip => exact emptyAhead_forward hinv (hkeep (by simp)) (Nat.le_succ _) fun _ _ => rfl
  | done _ hd =>
      have hle : v.session.current ≤ v.session.size :=
        Nat.le_of_lt (isDone_eq_false_iff.mp hd)
      exact emptyAhead_forward hinv (hkeep (by simp)) hle fun _ _ => rfl
  | reset => exact emptyAhead_dropped (resultAt_reset _)
  | back =>
      -- this is the moment from which results may be ahead
      intro hback
      exact absurd (since_cons.mpr (Or.inl ⟨rfl, by rw [happly]⟩)) hback

theorem emptyAhead_step {v v' : View} {past : List Moment} {c : Call}
    (hinv : EmptyAhead v past) (hcases : Performed v c v') :
    EmptyAhead v' (⟨v, c, v'⟩ :: past) := by
  cases hcases with
  | tick hrec _ => exact emptyAhead_tick _ hinv hrec
  | apply happly happ => exact emptyAhead_apply hinv happly happ
  | refresh _ =>
      exact emptyAhead_forward hinv (by simp [KeepsAll]) (Nat.le_refl _) fun _ _ => rfl

theorem emptyAhead_reachable {out : Outlet σ} {steps : List Step} {options : Options}
    {h : History σ} (hr : Reachable out (fresh steps options) h) : EmptyAhead h.view h.past :=
  reachable_induction (emptyAhead_fresh steps options) emptyAhead_step hr

/-! ## Passed steps -/

/-- A row is empty exactly if it has no origin. -/
theorem resultAt_eq_none_iff {i : Nat} {v : View} {past : List Moment} (h : Explained i v past) :
    resultAt v.session i = none ↔ ∀ r, ¬ Origin i r past := by
  constructor
  · intro hnone r horigin
    obtain ⟨control, _, hres⟩ := h.shown r horigin
    rw [hnone] at hres
    exact absurd hres (by simp)
  · intro hx
    cases hres : resultAt v.session i with
    | none => rfl
    | some control =>
        obtain ⟨r, horigin⟩ := h.origin (by rw [hres]; rfl)
        exact absurd horigin (hx r)

/--
**When a passed step is without a result.**

A step that the user skips, or that is left when the user finishes, is without a result afterwards
exactly if no poll has recorded for it since the results were last dropped, and surely if the user
has not gone back since then. If this finishes the session, the export shows no control for the
step under the same condition.
-/
theorem unassigned_iff_of_passes {out : Outlet σ} {steps : List Step} {options : Options}
    {h : History σ} (hr : Reachable out (fresh steps options) h) {a : Action} {v' : View} {i : Nat}
    (hpass : Passes h.view.session i a) (happly : h.view.apply a = (v', .ok true)) :
    (resultAt v'.session i = none ↔ ∀ r, ¬ Origin i r h.past)
      ∧ (¬ Reopened h.past → resultAt v'.session i = none)
      ∧ ∀ f e row, v'.frame = .ok f → f.result = some e → e.assignments[i]? = some row →
          (row.control = none ↔ ∀ r, ¬ Origin i r h.past) := by
  have hres := resultAt_of_passes hpass happly
  have hiff := resultAt_eq_none_iff (explained_reachable hr i)
  refine ⟨?_, ?_, ?_⟩
  · rw [hres]
    exact hiff
  · intro hback
    rw [hres]
    exact emptyAhead_reachable hr hback i hpass.current_le
  · intro f e row hf he hrow
    obtain ⟨device, _, rfl⟩ := eq_ofSession_of_result hf he
    have hrow' : v'.session.assignments[i]? = some row := hrow
    have hcontrol : resultAt v'.session i = row.control := by rw [resultAt, hrow']; rfl
    rw [← hcontrol, hres]
    exact hiff

/-- A session of two steps: the first is answered, the second skipped and gone back to. -/
def skippedThenBack : List Call :=
  [.tick (some (buttonReading ⟨"Pad", 1⟩ false)), .tick (some (buttonReading ⟨"Pad", 1⟩ true)),
    .apply .skip, .apply .back]

/-- Skipping the second step once more leaves it without a result, for nobody ever pressed
anything for it. -/
theorem unassigned_of_second_skip :
    let h := History.ofCalls plainOutlet
      (fresh [⟨"Fire", .button, 0⟩, ⟨"Jump", .button, 1⟩] .standard) () skippedThenBack
    ∃ v', Reachable plainOutlet (fresh [⟨"Fire", .button, 0⟩, ⟨"Jump", .button, 1⟩] .standard) h
      ∧ Passes h.view.session 1 .skip ∧ h.view.apply .skip = (v', .ok true)
      ∧ resultAt v'.session 1 = none ∧ ∀ r, ¬ Origin 1 r h.past := by
  have hr := reachable_ofCalls plainOutlet
    (fresh [⟨"Fire", .button, 0⟩, ⟨"Jump", .button, 1⟩] .standard) () skippedThenBack
  refine ⟨_, hr, rfl, rfl, rfl, ?_⟩
  obtain ⟨hiff, _⟩ := unassigned_iff_of_passes hr (a := .skip) (i := 1) rfl rfl
  exact hiff.mp rfl

/-- The first step is answered and gone back to. -/
def answeredThenBack : List Call :=
  [.tick (some (buttonReading ⟨"Pad", 1⟩ false)), .tick (some (buttonReading ⟨"Pad", 1⟩ true)),
    .apply .back]

/-- **A passed step can have a result.** After going back to a step that was answered, both
skipping it and finishing leave it with the old answer, and so does the export. -/
theorem assigned_of_passed_after_back :
    let h := History.ofCalls plainOutlet (fresh [⟨"Fire", .button, 0⟩] .standard) ()
      answeredThenBack
    Reachable plainOutlet (fresh [⟨"Fire", .button, 0⟩] .standard) h
      ∧ h.view.session.current = 0
      ∧ ∀ a, a = .skip ∨ a = .done → ∃ v' f e, h.view.apply a = (v', .ok true)
          ∧ resultAt v'.session 0 = some (.button 0)
          ∧ v'.frame = .ok f ∧ f.result = some e
          ∧ e.assignments = [⟨⟨"Fire", .button, 0⟩, some (.button 0)⟩] := by
  refine ⟨reachable_ofCalls _ _ _ _, rfl, ?_⟩
  intro a ha
  rcases ha with rfl | rfl
  · exact ⟨_, _, _, rfl, rfl, rfl, rfl, rfl⟩
  · exact ⟨_, _, _, rfl, rfl, rfl, rfl, rfl⟩

end PadMapping.Proofs
