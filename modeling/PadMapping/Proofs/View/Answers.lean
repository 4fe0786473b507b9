import PadMapping.Proofs.View.History

/-!
# What a view answers

A program that owns a view sees what its calls give back, and the display and the folder see what
the view hands over to them. An answer is all of that for one call. Nothing else of a view can be
observed, so two views are as good as the same if they give the same answers to every list of calls.

A view meets its surroundings only where it draws and saves. If two outlets give the same outcomes
there, then the same view, set among the surroundings of one or of the other, answers the same and
goes on to the same view (`matched_tick`, `matched_refresh`).
-/

namespace PadMapping.Proofs

open View

variable {σ τ : Type}

/-- What a call gives back, with what it handed over on the way. -/
inductive Answer where
  /-- The outcome of an action: whether it changed the session. -/
  | changed (outcome : Except Session.Fault Bool)
  /-- The response to a poll or a redraw. -/
  | response (r : Response)

/-- The answer to a call. -/
def Call.answer (out : Outlet σ) (v : View) (s : σ) : Call → Answer
  | .tick reading => .response (v.tick out reading s).2.2
  | .apply a => .changed (v.apply a).2
  | .refresh => .response (v.refresh out s).2.2

/-- The view and the surroundings after calls have been carried out one after the other. -/
def performAll (out : Outlet σ) (v : View) (s : σ) : List Call → View × σ
  | [] => (v, s)
  | c :: calls => performAll out (c.perform out v s).1 (c.perform out v s).2 calls

/-- The answers to calls that are carried out one after the other. -/
def answers (out : Outlet σ) (v : View) (s : σ) : List Call → List Answer
  | [] => []
  | c :: calls =>
    c.answer out v s :: answers out (c.perform out v s).1 (c.perform out v s).2 calls

/-! ## Outlets that behave alike -/

/-- Among surroundings that are related, both outlets give the same outcomes, and the surroundings
stay related. -/
structure Concordant (out : Outlet σ) (out' : Outlet τ) (R : σ → τ → Prop) : Prop where
  draw : ∀ (f : Frame) {s : σ} {t : τ}, R s t →
    (out.draw f s).2 = (out'.draw f t).2 ∧ R (out.draw f s).1 (out'.draw f t).1
  save : ∀ (folder : String) (e : Export) {s : σ} {t : τ}, R s t →
    (out.save folder e s).2 = (out'.save folder e t).2
      ∧ R (out.save folder e s).1 (out'.save folder e t).1

/-- Two outcomes that differ in nothing but related surroundings. -/
structure Matched {α : Type} (R : σ → τ → Prop) (x : View × σ × α) (y : View × τ × α) : Prop where
  view : x.1 = y.1
  surroundings : R x.2.1 y.2.1
  answer : x.2.2 = y.2.2

section

variable {out : Outlet σ} {out' : Outlet τ} {R : σ → τ → Prop} {s : σ} {t : τ}
variable (hout : Concordant out out' R) (hst : R s t)

include hout hst

theorem matched_store (f : Frame) (v : View) :
    Matched R (v.store out f s) (v.store out' f t) := by
  unfold store
  cases v.due? f with
  | none => exact ⟨rfl, hst, rfl⟩
  | some due =>
      obtain ⟨hsame, hrelated⟩ := hout.save due.1 due.2 hst
      exact ⟨by simp only [hsame], hrelated, rfl⟩

theorem matched_refresh (v : View) : Matched R (v.refresh out s) (v.refresh out' t) := by
  cases hstale : v.session.stale with
  | false =>
      rw [refresh_of_fresh out s hstale, refresh_of_fresh out' t hstale]
      exact ⟨rfl, hst, rfl⟩
  | true =>
      obtain ⟨f, hf, _⟩ := frame_ok v
      obtain ⟨hsame, hrelated⟩ := hout.draw f hst
      -- both displays show the frame, or both fail alike; the mixed cases cannot come up
      rcases hdraw : out.draw f s with ⟨s', cause | _⟩ <;>
        rcases hdraw' : out'.draw f t with ⟨t', cause' | _⟩ <;>
        rw [hdraw, hdraw'] at hsame hrelated
      · injection hsame with hcause
        rw [refresh_of_failed hstale hf hdraw, refresh_of_failed hstale hf hdraw', hcause]
        exact ⟨rfl, hrelated, rfl⟩
      · exact absurd hsame (by simp)
      · exact absurd hsame (by simp)
      · obtain ⟨hview, hstore, hattempt⟩ := matched_store hout hrelated f (drawn v)
        rw [refresh_of_shown hstale hf hdraw, refresh_of_shown hstale hf hdraw']
        exact ⟨hview, hstore, by rw [hattempt]⟩

theorem matched_tick (reading : Option Reading) (v : View) :
    Matched R (v.tick out reading s) (v.tick out' reading t) := by
  obtain ⟨v', hv', _⟩ := receive_cases reading v
  rw [tick_of_receive out s hv', tick_of_receive out' t hv']
  exact matched_refresh hout hst v'

/-- The same call to the same view is answered alike, and leads to the same view. -/
theorem perform_concordant (v : View) (c : Call) :
    (c.perform out v s).1 = (c.perform out' v t).1
      ∧ R (c.perform out v s).2 (c.perform out' v t).2
      ∧ c.answer out v s = c.answer out' v t := by
  cases c with
  | tick reading =>
      obtain ⟨hview, hrelated, hanswer⟩ := matched_tick hout hst reading v
      exact ⟨hview, hrelated, congrArg Answer.response hanswer⟩
  | apply a => exact ⟨rfl, hst, rfl⟩
  | refresh =>
      obtain ⟨hview, hrelated, hanswer⟩ := matched_refresh hout hst v
      exact ⟨hview, hrelated, congrArg Answer.response hanswer⟩

end

end PadMapping.Proofs
