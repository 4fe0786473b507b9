import PadMapping.Proofs.View.Answers
import PadMapping.Proofs.View.Running

/-!
# How often is polled does not matter

A view that polls faster sees the same reading more often. Everything a reading can do to a session
is done the first time: if the connection changed, it is the same one now; if the waiting ended, all
controls are released and there is nothing to record; if a control was recorded, the session waits,
and that control is still held. So the same reading once more finds a session that has no use for it
(`idle_of_received`), and nothing is left to draw.

From this it follows that polls may be repeated at any place of any list of calls, as often as one
likes, without a difference in anything but the answers in which nothing happens.
-/

namespace PadMapping.Proofs

open View

variable {σ : Type}

/-! ## The same poll once more -/

/-- A session has no use for a reading that it has just taken. -/
theorem idle_of_received {v v' : View} {reading : Option Reading} (h : Received v reading v') :
    ∀ r, reading = some r → Idle v' r := by
  intro r hr
  cases h with
  | same _ hidle => exact hidle r hr
  | switched _ hidle => subst hr; exact hidle r rfl
  | released _ _ _ hn | switchedReleased _ hn =>
      injection hr with hr
      rw [hr] at hn
      -- all is released, so there is nothing to record
      have hnone : r.active? v.options.threshold = none := Option.isNone_iff_eq_none.mp hn
      exact Or.inr (Or.inr ⟨rfl, hnone⟩)
  | recorded _ _ _ ha =>
      -- the control that was recorded is still held, and now the session waits
      injection hr with hr
      rw [hr] at ha
      have hheld : r.isNeutral v.options.threshold = false := by rw [Reading.isNeutral, ha]; rfl
      exact Or.inr (Or.inl ⟨rfl, hheld⟩)

/-- **The same poll once more changes nothing, draws nothing and saves nothing**, also if the first
one was an error. -/
theorem tick_again (out : Outlet σ) (reading : Option Reading) (v : View) (s t : σ) :
    (v.tick out reading s).1.tick out reading t = ((v.tick out reading s).1, t, .quiet) := by
  obtain ⟨v', hv', hrec⟩ := receive_cases reading v
  obtain ⟨saved, hview, _⟩ := refresh_view out v' s
  -- also after a frame that could not be shown, nothing is left to draw
  have hafter : (v.tick out reading s).1 = { drawn v' with saved } := by
    rw [tick_of_receive out s hv', hview]
  have hsame : reading.map Reading.identity = ({ drawn v' with saved } : View).device :=
    (received_device hrec).symm
  have hidle : ∀ r, reading = some r → Idle { drawn v' with saved } r := by
    intro r hr
    exact idle_of_received hrec r hr
  rw [hafter, tick_of_idle out t hsame hidle rfl]

/-! ## Polls made several times -/

/-- A call, and the same again `n` times if it is a poll. -/
def Call.repeated (n : Nat) : Call → List Call
  | .tick reading => List.replicate (n + 1) (.tick reading)
  | c => [c]

/-- Calls with as many more polls in the place of each poll as is said beside it. -/
def stretched (calls : List (Call × Nat)) : List Call := calls.flatMap fun c => c.1.repeated c.2

/-- Only polls are made again. -/
example (r : Option Reading) :
    stretched [(.tick r, 2), (.apply .skip, 5)] = [.tick r, .tick r, .tick r, .apply .skip] := rfl

/-- The frame that an answer says was drawn. -/
def Answer.frame? : Answer → Option Frame
  | .response r => r.frame
  | .changed _ => none

/-- The export that an answer says was handed over to be saved. -/
def Answer.attempt? : Answer → Option Export
  | .response r => r.attempt
  | .changed _ => none

/-- The outcome of an action or of a poll, if it tells anything. -/
def Answer.outcome? : Answer → Option (Except Fault Bool)
  | .response ⟨_, _, .error fault⟩ => some (.error fault)
  | .response _ => none
  | .changed (.ok done) => some (.ok done)
  | .changed (.error fault) => some (.error (.session fault))

theorem performAll_append (out : Outlet σ) (calls calls' : List Call) (v : View) (s : σ) :
    performAll out v s (calls ++ calls')
      = performAll out (performAll out v s calls).1 (performAll out v s calls).2 calls' := by
  induction calls generalizing v s with
  | nil => rfl
  | cons c calls ih => exact ih _ _

theorem answers_append (out : Outlet σ) (calls calls' : List Call) (v : View) (s : σ) :
    answers out v s (calls ++ calls') = answers out v s calls
      ++ answers out (performAll out v s calls).1 (performAll out v s calls).2 calls' := by
  induction calls generalizing v s with
  | nil => rfl
  | cons c calls ih => exact congrArg (c.answer out v s :: ·) (ih _ _)

theorem replicate_again (out : Outlet σ) (reading : Option Reading) (v : View) (s t : σ) (n : Nat) :
    performAll out (v.tick out reading s).1 t (List.replicate n (.tick reading))
        = ((v.tick out reading s).1, t)
      ∧ answers out (v.tick out reading s).1 t (List.replicate n (.tick reading))
        = List.replicate n (.response .quiet) := by
  induction n with
  | zero => exact ⟨rfl, rfl⟩
  | succ n ih =>
      rw [List.replicate_succ, List.replicate_succ, performAll, answers, Call.perform, Call.answer,
        tick_again]
      exact ⟨ih.1, congrArg (_ :: ·) ih.2⟩

/-- A repeated call comes to the same as the call, and its other answers are quiet. -/
theorem repeated_eq (out : Outlet σ) (c : Call) (n : Nat) (v : View) (s : σ) :
    performAll out v s (c.repeated n) = c.perform out v s
      ∧ ∃ k, answers out v s (c.repeated n)
        = c.answer out v s :: List.replicate k (.response .quiet) := by
  cases c with
  | tick reading =>
      obtain ⟨hstate, hquiet⟩ := replicate_again out reading v s (v.tick out reading s).2.1 n
      exact ⟨hstate, n, congrArg (_ :: ·) hquiet⟩
  | apply a => exact ⟨rfl, 0, rfl⟩
  | refresh => exact ⟨rfl, 0, rfl⟩

theorem performAll_stretched (out : Outlet σ) (calls : List (Call × Nat)) (v : View) (s : σ) :
    performAll out v s (stretched calls) = performAll out v s (calls.map Prod.fst) := by
  induction calls generalizing v s with
  | nil => rfl
  | cons c calls ih =>
      obtain ⟨hstate, _⟩ := repeated_eq out c.1 c.2 v s
      rw [stretched, List.flatMap_cons, performAll_append, hstate]
      exact ih _ _

/-- Whatever is looked for in the answers, and is in no quiet one, is found there in the same order. -/
theorem answers_stretched {α : Type} {find : Answer → Option α}
    (hfind : find (.response .quiet) = none) (out : Outlet σ) (calls : List (Call × Nat)) (v : View)
    (s : σ) :
    (answers out v s (stretched calls)).filterMap find
      = (answers out v s (calls.map Prod.fst)).filterMap find := by
  induction calls generalizing v s with
  | nil => rfl
  | cons c calls ih =>
      obtain ⟨hstate, k, hanswers⟩ := repeated_eq out c.1 c.2 v s
      have hquiet : (List.replicate k (Answer.response .quiet)).filterMap find = [] := by
        rw [List.filterMap_replicate_of_none hfind]
      have hrest := ih (c.1.perform out v s).1 (c.1.perform out v s).2
      rw [stretched, List.flatMap_cons, answers_append, hstate, hanswers, List.filterMap_append,
        List.map_cons, answers, List.filterMap_cons, List.filterMap_cons, hquiet]
      cases find (c.1.answer out v s) with
      | none => exact hrest
      | some a => exact congrArg (a :: ·) hrest

/--
**How often is polled does not matter.**

A poll that follows a poll with the same outcome leaves all of the view and its surroundings as they
are, draws nothing and saves nothing. Hence the polls in a list of calls may be made any number of
times in a row: the view and the surroundings at the end, the frames, the attempts to save, and what
the calls tell about success and failure are the same, each in the same order.
-/
theorem performAll_repeated (out : Outlet σ) (v : View) (s : σ) :
    (∀ reading t, (v.tick out reading s).1.tick out reading t
        = ((v.tick out reading s).1, t, .quiet))
      ∧ ∀ calls,
          performAll out v s (stretched calls) = performAll out v s (calls.map Prod.fst)
            ∧ (answers out v s (stretched calls)).filterMap Answer.frame?
              = (answers out v s (calls.map Prod.fst)).filterMap Answer.frame?
            ∧ (answers out v s (stretched calls)).filterMap Answer.attempt?
              = (answers out v s (calls.map Prod.fst)).filterMap Answer.attempt?
            ∧ (answers out v s (stretched calls)).filterMap Answer.outcome?
              = (answers out v s (calls.map Prod.fst)).filterMap Answer.outcome? := by
  refine ⟨?_, ?_⟩
  · intro reading t
    exact tick_again out reading v s t
  · intro calls
    refine ⟨performAll_stretched out calls v s, ?_, ?_, ?_⟩
    · exact answers_stretched rfl out calls v s
    · exact answers_stretched rfl out calls v s
    · exact answers_stretched rfl out calls v s

end PadMapping.Proofs
