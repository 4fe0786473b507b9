import PadMapping.Proofs.View.Passing
import PadMapping.Proofs.View.Refusal

/-!
# Dropping the results

Resetting drops all results, but it is possible only behind the first step. Whether it is possible
says nothing about the results themselves: it looks at the current step alone, and going back to the
first step keeps what was recorded. So a view can hold results and still refuse to drop them.

This module says when that happens, and that nothing is stuck by it: without going back there is
nothing at the first step that could be dropped, and otherwise the first step can be skipped, after
which resetting is possible.
-/

namespace PadMapping.Proofs

open View

variable {σ : Type}

/-- Nothing is recorded for any step. -/
def Unanswered (s : Session) : Prop := ∀ i, resultAt s i = none

/-- A session with a result has the step to which it belongs. -/
theorem size_pos_of_answered {s : Session} (h : ¬ Unanswered s) : 0 < s.size := by
  refine Nat.pos_of_ne_zero fun hsize => h fun i => ?_
  have hnil : s.assignments = [] := List.eq_nil_of_length_eq_zero hsize
  rw [resultAt, hnil]
  rfl

section

variable {v : View}

/-- With a device, resetting is refused at the first step and nowhere else. -/
theorem reset_refused_iff (hdev : v.device.isSome = true) :
    v.availability.allows .reset = false ↔ v.session.current = 0 := by
  rw [allows_eq]
  simp [hdev]

/-- Where it is not refused, it drops everything. -/
theorem unanswered_of_reset (hdev : v.device.isSome = true)
    (hallowed : v.availability.allows .reset = true) :
    ∃ v', v.apply .reset = (v', .ok true) ∧ Unanswered v'.session := by
  obtain ⟨v', changed, hv', happ⟩ := apply_cases .reset v
  have hchanged : (v.apply .reset).2 = .ok true :=
    apply_eq_ok_true_iff.mpr ⟨hdev, by simp, hallowed⟩
  cases happ with
  | ignored => rw [hv'] at hchanged; exact absurd hchanged (by simp)
  | reset => exact ⟨_, hv', resultAt_reset v.session⟩

/-- Where it is refused, it is so only until the first step is skipped. -/
theorem unanswered_of_skip_reset (hdev : v.device.isSome = true)
    (hrefused : v.availability.allows .reset = false) (hanswered : ¬ Unanswered v.session) :
    ∃ v' v'', v.apply .skip = (v', .ok true) ∧ v'.apply .reset = (v'', .ok true)
      ∧ Unanswered v''.session := by
  have hfirst := (reset_refused_iff hdev).mp hrefused
  have hopen : v.session.isDone = false :=
    isDone_eq_false_iff.mpr (hfirst ▸ size_pos_of_answered hanswered)
  have hskip : (v.apply .skip).2 = .ok true :=
    apply_eq_ok_true_iff.mpr ⟨hdev, by simp, by rw [allows_eq]; simp [hdev, hopen]⟩
  obtain ⟨v', changed, hv', happ⟩ := apply_cases .skip v
  obtain ⟨_, hmoved, _⟩ := moved_of_apply hskip
  rw [hv'] at hskip hmoved
  have hdev' : v'.device.isSome = true := by rw [applied_device happ]; exact hdev
  have hallowed : v'.availability.allows .reset = true := by
    rw [← Bool.not_eq_false, reset_refused_iff hdev']
    exact fun hcur => hmoved (hcur.trans hfirst.symm)
  obtain ⟨v'', hv'', hnone⟩ := unanswered_of_reset hdev' hallowed
  exact ⟨v', v'', hv'.trans (Prod.ext rfl hskip), hv'', hnone⟩

end

/--
**When resetting is refused, and how to get rid of results nevertheless.**

A step has a result exactly if a poll has recorded for it since the results were last dropped. With
a device, resetting is refused exactly at the first step, and then changes nothing. Nothing is
recorded there unless the user has gone back since the results were last dropped. Where resetting is
not refused, nothing is recorded after it. Where it is refused although there are results, the user
can skip the first step, and nothing is recorded after resetting then.
-/
theorem reset_refused_iff_first {out : Outlet σ} {steps : List Step} {options : Options}
    {h : History σ} (hr : Reachable out (fresh steps options) h)
    (hdev : h.view.device.isSome = true) :
    (∀ i, resultAt h.view.session i = none ↔ ∀ r, ¬ Origin i r h.past)
      ∧ (h.view.availability.allows .reset = false ↔ h.view.session.current = 0)
      ∧ (h.view.availability.allows .reset = false →
        h.view.apply .reset = (h.view, .ok false)
          ∧ (¬ Reopened h.past → Unanswered h.view.session))
      ∧ (h.view.availability.allows .reset = true →
        ∃ v', h.view.apply .reset = (v', .ok true) ∧ Unanswered v'.session)
      ∧ (h.view.availability.allows .reset = false → ¬ Unanswered h.view.session →
        ∃ v' v'', h.view.apply .skip = (v', .ok true) ∧ v'.apply .reset = (v'', .ok true)
          ∧ Unanswered v''.session) := by
  have hfirst := reset_refused_iff hdev
  refine ⟨fun i => resultAt_eq_none_iff (explained_reachable hr i), hfirst, ?_,
    unanswered_of_reset hdev, unanswered_of_skip_reset hdev⟩
  intro hrefused
  refine ⟨apply_of_refused (Or.inl hrefused), ?_⟩
  -- at the first step all steps are ahead
  intro hback i
  refine emptyAhead_reachable hr hback i ?_
  rw [hfirst.mp hrefused]
  exact Nat.zero_le i

/-- After going back to the first step that was answered, the old answer is dropped by skipping the
step and resetting then. -/
theorem dropped_after_back :
    let h := History.ofCalls plainOutlet (fresh [⟨"Fire", .button, 0⟩] .standard) ()
      answeredThenBack
    Reachable plainOutlet (fresh [⟨"Fire", .button, 0⟩] .standard) h
      ∧ h.view.device.isSome = true ∧ ¬ Unanswered h.view.session ∧ Reopened h.past
      ∧ ∃ v' v'', h.view.apply .skip = (v', .ok true) ∧ v'.apply .reset = (v'', .ok true)
        ∧ Unanswered v''.session := by
  intro h
  have hr : Reachable plainOutlet (fresh [⟨"Fire", .button, 0⟩] .standard) h :=
    reachable_ofCalls _ _ _ _
  have hdev : h.view.device.isSome = true := rfl
  have hanswered : ¬ Unanswered h.view.session := fun hnone => absurd (hnone 0) (by decide)
  obtain ⟨_, hiff, hkept, _, hdropped⟩ := reset_refused_iff_first hr hdev
  have hrefused := hiff.mpr rfl
  refine ⟨hr, hdev, hanswered, ?_, hdropped hrefused hanswered⟩
  exact Classical.byContradiction fun hback => hanswered ((hkept hrefused).2 hback)

/-- **Resetting can be refused although there is something to reset**, namely the answer of the
first step after going back to it. -/
theorem answered_of_refused_reset :
    let h := History.ofCalls plainOutlet (fresh [⟨"Fire", .button, 0⟩] .standard) ()
      answeredThenBack
    Reachable plainOutlet (fresh [⟨"Fire", .button, 0⟩] .standard) h
      ∧ h.view.device = some ⟨"Pad", 1⟩
      ∧ h.view.availability.allows .reset = false
      ∧ h.view.apply .reset = (h.view, .ok false)
      ∧ resultAt h.view.session 0 = some (.button 0) :=
  ⟨reachable_ofCalls _ _ _ _, rfl, rfl, rfl, rfl⟩

end PadMapping.Proofs
