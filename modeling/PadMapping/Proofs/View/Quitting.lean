import PadMapping.Proofs.View.Faults
import PadMapping.Proofs.View.Refusal
import PadMapping.Proofs.View.Saving

/-!
# Runs that end on their own

A run ends when the user quits, when something goes wrong, or else at the close, from which on no
more actions can come. The close is out of the hands of whoever sends the actions. So the question
is whether the actions alone bring a run to its end, and the answer is short: they do if quitting is
among them (`endsAlone_of_quit`), and if it is not, then on a display that never fails the run goes
on to the close, whenever that is (`goesOn_of_noQuit`).
-/

namespace PadMapping.Proofs

open View

variable {σ : Type}

/-- The run ends by the time of the last action, and in the same way whenever the close is. -/
def EndsAlone (out : Outlet σ) (reading : Nat → Option Reading) (sent : List (Nat × Action))
    (v : View) (s : σ) : Prop :=
  ∃ ended, (∀ close, run out ⟨reading, sent, close⟩ v s = ended)
    ∧ ∀ time, (∀ x ∈ sent, x.1 ≤ time) → ended.time ≤ time

/-- The run ends at the close, and not with a fault. -/
def GoesOn (out : Outlet σ) (reading : Nat → Option Reading) (sent : List (Nat × Action))
    (v : View) (s : σ) : Prop :=
  ∀ close, (run out ⟨reading, sent, close⟩ v s).time = close
    ∧ (run out ⟨reading, sent, close⟩ v s).result = .ok ()

theorem not_endsAlone_of_goesOn {out : Outlet σ} {reading : Nat → Option Reading}
    {sent : List (Nat × Action)} {v : View} {s : σ} (h : GoesOn out reading sent v s) :
    ¬ EndsAlone out reading sent v s := by
  rintro ⟨ended, hended, _⟩
  have hfirst := (h 0).1
  have hsecond := (h 1).1
  rw [hended] at hfirst hsecond
  rw [hfirst] at hsecond
  exact absurd hsecond (by decide)

section

variable {out : Outlet σ} {schedule schedule' : Schedule} {p : Progress σ}

/-! ## With quitting -/

/-- For the polls up to a time only the readings of a schedule matter. -/
theorem pollUntil_congr (hreading : schedule'.reading = schedule.reading) (time : Nat) :
    p.pollUntil out schedule' time = p.pollUntil out schedule time := by
  have hpoll : ∀ q : Progress σ, q.poll out schedule' = q.poll out schedule := fun q => by
    rw [Progress.poll, Progress.poll, hreading]
  fun_induction Progress.pollUntil out schedule time p with
  | case1 p hdue next fault hfault =>
      rw [pollUntil_of_failed hdue (by rw [hpoll]; exact hfault), hpoll]
  | case2 p hdue next hok ih =>
      rw [pollUntil_of_due hdue (by rw [hpoll]; exact hok), hpoll]
      exact ih
  | case3 p hover => exact pollUntil_of_over (Nat.lt_of_not_le hover)

theorem time_of_pollUntil {time : Nat} {ended : Ended σ}
    (h : p.pollUntil out schedule time = .error ended) : ended.time ≤ time := by
  fun_induction Progress.pollUntil out schedule time p with
  | case1 p hdue next fault hfault =>
      injection h with h
      rw [← h]
      exact hdue
  | case2 p hdue next hok ih => exact ih h
  | case3 p hover => exact absurd h (by simp)

/-- **A run that quits does not wait for the close.** -/
theorem advance_of_quit (hreading : schedule'.reading = schedule.reading)
    {actions : List (Nat × Action)} (hquit : Action.quit ∈ actions.map Prod.snd) :
    p.advance out schedule' actions = p.advance out schedule actions := by
  induction actions generalizing p with
  | nil => exact absurd hquit (by simp)
  | cons next rest ih =>
      obtain ⟨time, action⟩ := next
      rw [Progress.advance, Progress.advance, pollUntil_congr hreading]
      cases p.pollUntil out schedule time with
      | error ended => rfl
      | ok p' =>
          dsimp only
          by_cases haction : action = .quit
          · rw [if_pos haction, if_pos haction]
          · have hrest : Action.quit ∈ rest.map Prod.snd :=
              (List.mem_cons.mp hquit).resolve_left (Ne.symm haction)
            rw [if_neg haction, if_neg haction]
            cases (p'.act out time action).lastResult with
            | error fault => rfl
            | ok _ => exact ih hrest

theorem time_of_quit {actions : List (Nat × Action)} {last : Nat}
    (hquit : Action.quit ∈ actions.map Prod.snd) (hlast : ∀ x ∈ actions, x.1 ≤ last) :
    (p.advance out schedule actions).time ≤ last := by
  induction actions generalizing p with
  | nil => exact absurd hquit (by simp)
  | cons next rest ih =>
      obtain ⟨time, action⟩ := next
      have htime : time ≤ last := hlast (time, action) List.mem_cons_self
      rw [Progress.advance]
      cases hpoll : p.pollUntil out schedule time with
      | error ended => exact Nat.le_trans (time_of_pollUntil hpoll) htime
      | ok p' =>
          dsimp only
          by_cases haction : action = .quit
          · rw [if_pos haction]
            exact htime
          · have hrest : Action.quit ∈ rest.map Prod.snd :=
              (List.mem_cons.mp hquit).resolve_left (Ne.symm haction)
            rw [if_neg haction]
            cases (p'.act out time action).lastResult with
            | error fault => exact htime
            | ok _ => exact ih hrest fun x hx => hlast x (List.mem_cons_of_mem _ hx)

/-! ## Without quitting -/

/-- A display that never fails does not fail. -/
theorem not_displayFailed (hdraw : AlwaysDraws out) {s : σ} {response : Response}
    {fault : View.Fault} : ¬ DisplayFailed out s response fault := by
  rintro ⟨f, s', cause, _, hfailed, _⟩
  have hdrawn := hdraw f s
  rw [hfailed] at hdrawn
  exact absurd hdrawn (by simp)

theorem lastResult_poll (hdraw : AlwaysDraws out) : (p.poll out schedule).lastResult = .ok () := by
  show (p.view.tick out (schedule.reading p.polls) p.surroundings).2.2.result = .ok ()
  cases hresult : (p.view.tick out (schedule.reading p.polls) p.surroundings).2.2.result with
  | ok _ => rfl
  | error fault => exact absurd ((tick_error_iff ..).mp hresult) (not_displayFailed hdraw)

theorem lastResult_act (hdraw : AlwaysDraws out) (time : Nat) (a : Action) :
    (p.act out time a).lastResult = .ok () := by
  show (p.view.act out a p.surroundings).2.2.result = .ok ()
  cases hresult : (p.view.act out a p.surroundings).2.2.result with
  | ok _ => rfl
  | error fault => exact absurd ((act_error_iff ..).mp hresult) (not_displayFailed hdraw)

theorem pollUntil_of_drawn (hdraw : AlwaysDraws out) (time : Nat) :
    ∃ p', p.pollUntil out schedule time = .ok p' := by
  fun_induction Progress.pollUntil out schedule time p with
  | case1 p hdue next fault hfault =>
      rw [lastResult_poll hdraw] at hfault
      exact absurd hfault (by simp)
  | case2 p hdue next hok ih => exact ih
  | case3 p hover => exact ⟨p, rfl⟩

/-- **Without quitting and without faults a run waits for the close.** -/
theorem advance_of_noQuit (hdraw : AlwaysDraws out) {actions : List (Nat × Action)}
    (hquit : Action.quit ∉ actions.map Prod.snd) :
    (p.advance out schedule actions).time = schedule.close
      ∧ (p.advance out schedule actions).result = .ok () := by
  induction actions generalizing p with
  | nil =>
      have hpolls : ∃ p', p.pollUntil out schedule schedule.close = .ok p' :=
        pollUntil_of_drawn hdraw schedule.close
      obtain ⟨p', hpoll⟩ := hpolls
      rw [Progress.advance, hpoll]
      exact ⟨rfl, rfl⟩
  | cons next rest ih =>
      obtain ⟨time, action⟩ := next
      rw [List.map_cons, List.mem_cons, not_or] at hquit
      have hpolls : ∃ p', p.pollUntil out schedule time = .ok p' := pollUntil_of_drawn hdraw time
      obtain ⟨p', hpoll⟩ := hpolls
      rw [Progress.advance, hpoll]
      dsimp only
      rw [if_neg (Ne.symm hquit.1), lastResult_act hdraw]
      exact ih hquit.2

end

/-! ## Whole runs -/

section

variable {out : Outlet σ} {sent : List (Nat × Action)}

theorem endsAlone_of_quit (out : Outlet σ) (reading : Nat → Option Reading) (v : View) (s : σ)
    (hquit : Action.quit ∈ sent.map Prod.snd) : EndsAlone out reading sent v s := by
  refine ⟨run out ⟨reading, sent, 0⟩ v s, fun close => ?_, fun time htime => ?_⟩
  · have hreading : (⟨reading, sent, close⟩ : Schedule).reading
        = (⟨reading, sent, 0⟩ : Schedule).reading := rfl
    exact unlessFailed_congr (advance_of_quit hreading hquit)
  · show (unlessFailed 0 (started out v s) _).time ≤ time
    rw [unlessFailed]
    split
    · exact Nat.zero_le time
    · exact time_of_quit hquit htime

theorem goesOn_of_noQuit (hdraw : AlwaysDraws out) (reading : Nat → Option Reading) (v : View)
    (s : σ) (hquit : Action.quit ∉ sent.map Prod.snd) : GoesOn out reading sent v s := by
  intro close
  have hstart : (started out v s).lastResult = .ok () := by
    show (v.refresh out s).2.2.result = .ok ()
    cases hresult : (v.refresh out s).2.2.result with
    | ok _ => rfl
    | error fault => exact absurd ((refresh_error_iff ..).mp hresult) (not_displayFailed hdraw)
  have hrun : run out ⟨reading, sent, close⟩ v s
      = (started out v s).advance out ⟨reading, sent, close⟩ sent := by
    show unlessFailed 0 (started out v s) _ = _
    rw [unlessFailed, hstart]
  rw [hrun]
  exact advance_of_noQuit hdraw hquit

end

end PadMapping.Proofs
