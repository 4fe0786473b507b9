import PadMapping.Proofs.Session.Requests
import PadMapping.Proofs.View.History

/-!
# What holds of every view

Three facts that no order of calls can break, whatever the display and the folder do. The steps
are those that the view began with. The session does not run past its end, so that going back from
there reopens the last step. And a result counts as saved only while the view is finished, so that
finishing anew is saved anew.
-/

namespace PadMapping.Proofs

open View

variable {σ : Type}

/-- The facts that hold of every view on the given steps. -/
structure Sound (steps : List Step) (v : View) : Prop where
  /-- The steps never change. -/
  steps : stepsOf v.session = steps
  /-- The session is not past its end. -/
  bound : v.session.current ≤ v.session.size
  /-- Only the result of a finished view is saved. -/
  saved : v.saved = true → Finished v

theorem Sound.size_eq {steps : List Step} {v : View} (h : Sound steps v) :
    v.session.size = steps.length := by
  rw [Proofs.size_eq, h.steps]

/-- A new view of any session that requests arrive at is sound. -/
theorem sound_ofSession {steps : List Step} {session : Session} (h : Attained steps session)
    (options : Options) : Sound steps (ofSession session options) where
  steps := stepsOf_attained h
  bound := current_le_attained h
  saved := fun hs => absurd hs (by simp [ofSession])

theorem sound_fresh (steps : List Step) (options : Options) : Sound steps (fresh steps options) :=
  sound_ofSession .start options

/-- An unfinished view has nothing saved. -/
theorem Sound.saved_eq_false {steps : List Step} {v : View} (h : Sound steps v)
    (hopen : v.session.isDone = false) : v.saved = false := by
  cases hs : v.saved with
  | false => rfl
  | true =>
      have := (h.saved hs).2
      rw [hopen] at this
      exact absurd this (by simp)

theorem sound_received {steps : List Step} {v v' : View} {reading : Option Reading}
    (h : Sound steps v) (hrec : Received v reading v') : Sound steps v' := by
  refine ⟨(received_steps hrec).trans h.steps, ?_, ?_⟩
  · cases hrec with
    | same | released => exact h.bound
    | @recorded r control _ hd =>
        have hlt := isDone_eq_false_iff.mp hd
        have hsize : (recorded v.session control).size = v.session.size := by
          simp [recorded, Session.size]
        show v.session.current + 1 ≤ (recorded v.session control).size
        omega
    | switched | switchedReleased => exact Nat.zero_le _
  · cases hrec with
    | same => exact h.saved
    | released _ hd | recorded _ hd =>
        intro hs
        have hs' : v.saved = true := hs
        rw [h.saved_eq_false hd] at hs'
        exact absurd hs' (by simp)
    | switched | switchedReleased => intro hs; exact absurd hs (by simp [switched])

theorem sound_applied {steps : List Step} {v v' : View} {a : Action} {changed : Bool}
    (h : Sound steps v) (happ : Applied v a v' changed) : Sound steps v' := by
  refine ⟨(applied_steps happ).trans h.steps, ?_, ?_⟩
  · have hbound := h.bound
    cases happ with
    | ignored => exact hbound
    | skip _ hd => exact isDone_eq_false_iff.mp hd
    | reset => exact Nat.zero_le _
    | back =>
        show v.session.current - 1 ≤ v.session.size
        omega
    | done => exact Nat.le_refl _
  · cases happ with
    | ignored => exact h.saved
    | skip _ hd | done _ hd =>
        intro hs
        have hs' : v.saved = true := hs
        rw [h.saved_eq_false hd] at hs'
        exact absurd hs' (by simp)
    | reset | back => intro hs; exact absurd hs (by simp)

theorem sound_drawn {steps : List Step} {v : View} {saved : Bool} (h : Sound steps v)
    (hsaved : saved = true → v.saved = true ∨ Finished v) :
    Sound steps { drawn v with saved } where
  steps := h.steps
  bound := h.bound
  saved := fun hs => (hsaved hs).elim h.saved id

theorem sound_performed {steps : List Step} {v v' : View} {c : Call} (h : Sound steps v)
    (hcases : Performed v c v') : Sound steps v' := by
  cases hcases with
  | tick hrec hsaved => exact sound_drawn (sound_received h hrec) hsaved
  | apply _ happ => exact sound_applied h happ
  | refresh hsaved => exact sound_drawn h hsaved

/-- **What is sound stays sound**, whatever is asked of it. -/
theorem sound_kept {out : Outlet σ} {steps : List Step} {v₀ : View} (h₀ : Sound steps v₀)
    {h : History σ} (hr : Reachable out v₀ h) : Sound steps h.view :=
  reachable_induction (P := fun v _ => Sound steps v) h₀
    (fun ih hcases => sound_performed ih hcases) hr

theorem sound_reachable {out : Outlet σ} {steps : List Step} {options : Options}
    {h : History σ} (hr : Reachable out (fresh steps options) h) : Sound steps h.view :=
  sound_kept (sound_fresh steps options) hr

end PadMapping.Proofs
