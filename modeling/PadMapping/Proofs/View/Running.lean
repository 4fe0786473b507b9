import PadMapping.Proofs.View.Sound
import PadMapping.View.Run

/-!
# Running views

A running view goes through states: the one after its first frame, and one after every poll and
every action, in whatever order these come. `Running` collects them over all schedules, and
`running_run` says that a run arrives nowhere else. Every such state also ends a history, so
whatever holds of all histories holds of running views.

What sets a running view apart from any other is that between two events its session is never
stale. This makes a redraw after an action that changed nothing a redraw of nothing, so that both
kinds of events come to the same: react, then redraw.
-/

namespace PadMapping.Proofs

open View

variable {σ : Type}

/-- The states of a running view that began as `v₀`. -/
inductive Running (out : Outlet σ) (v₀ : View) : Progress σ → Prop where
  | start (s : σ) : Running out v₀ (Progress.note ⟨v₀, s, 0, []⟩ 0 (v₀.refresh out s))
  | poll {p : Progress σ} (schedule : Schedule) :
      Running out v₀ p → Running out v₀ (p.poll out schedule)
  | act {p : Progress σ} (time : Nat) (a : Action) :
      Running out v₀ p → Running out v₀ (p.act out time a)

/-- **Induction over the states of a running view.** The two kinds of events are one case here;
`count` says that the property does not look at the number of polls. -/
theorem running_induction {out : Outlet σ} {v₀ : View} {P : Progress σ → Prop}
    (start : ∀ s, P (Progress.note ⟨v₀, s, 0, []⟩ 0 (v₀.refresh out s)))
    (step : ∀ {p : Progress σ} (time : Nat) (e : Event), Running out v₀ p → P p →
      P (p.note time (p.view.handle out e p.surroundings)))
    (count : ∀ {p : Progress σ}, P p → P { p with polls := p.polls + 1 })
    {p : Progress σ} (hp : Running out v₀ p) : P p := by
  induction hp with
  | start s => exact start s
  | @poll p schedule hp ih =>
      exact count (step p.nextPoll (.poll (schedule.reading p.polls)) hp ih)
  | act time a hp ih => exact step time (.action a) hp ih

/-! ## Runs -/

section

variable {out : Outlet σ} {schedule : Schedule} {P : Progress σ → Prop}
variable (poll : ∀ p : Progress σ, P p → P (p.poll out schedule))
  (act : ∀ (p : Progress σ) (time : Nat) (a : Action), P p → P (p.act out time a))

include poll

theorem pollUntil_induction (time : Nat) :
    ∀ {p : Progress σ}, P p → p.lastResult = .ok () →
      match p.pollUntil out schedule time with
      | .error ended => P ended.toProgress ∧ ended.result = ended.lastResult
      | .ok p' => P p' ∧ p'.lastResult = .ok () := by
  intro p
  fun_induction Progress.pollUntil out schedule time p with
  | case1 p hdue next fault hfault => intro hp _; exact ⟨poll p hp, hfault.symm⟩
  | case2 p hdue next hok ih => intro hp _; exact ih (poll p hp) hok
  | case3 p hdue => intro hp hok; exact ⟨hp, hok⟩

include act

theorem advance_induction (actions : List (Nat × Action)) :
    ∀ {p : Progress σ}, P p → p.lastResult = .ok () →
      P (p.advance out schedule actions).toProgress
        ∧ (p.advance out schedule actions).result
          = (p.advance out schedule actions).lastResult := by
  induction actions with
  | nil =>
      intro p hp hok
      have hpoll := pollUntil_induction poll schedule.close hp hok
      rw [Progress.advance]
      cases hres : p.pollUntil out schedule schedule.close with
      | error ended => rw [hres] at hpoll; exact hpoll
      | ok p' => rw [hres] at hpoll; exact ⟨hpoll.1, hpoll.2.symm⟩
  | cons next rest ih =>
      intro p hp hok
      obtain ⟨time, action⟩ := next
      have hpoll := pollUntil_induction poll time hp hok
      rw [Progress.advance]
      cases hres : p.pollUntil out schedule time with
      | error ended => rw [hres] at hpoll; exact hpoll
      | ok p' =>
          rw [hres] at hpoll
          obtain ⟨hp', hok'⟩ := hpoll
          dsimp only
          by_cases hquit : action = .quit
          · rw [if_pos hquit]
            exact ⟨hp', hok'.symm⟩
          · rw [if_neg hquit]
            have hact := act p' time action hp'
            cases hlast : (p'.act out time action).lastResult with
            | error fault => exact ⟨hact, hlast.symm⟩
            | ok _ => exact ih hact hlast

/-- **Induction over a run.** What holds after the first frame and is kept by every poll and every
action holds when the run has ended, and the run comes to what its last event came to. -/
theorem run_induction {v₀ : View} {s : σ}
    (start : P (Progress.note ⟨v₀, s, 0, []⟩ 0 (v₀.refresh out s))) :
    P (run out schedule v₀ s).toProgress
      ∧ (run out schedule v₀ s).result = (run out schedule v₀ s).lastResult := by
  unfold run
  cases hlast : (Progress.note ⟨v₀, s, 0, []⟩ 0 (v₀.refresh out s)).lastResult with
  | error fault => simp only [hlast]; exact ⟨start, hlast.symm⟩
  | ok _ => simp only [hlast]; exact advance_induction poll act _ start hlast

end

/-- **A run arrives at states of a running view only.** -/
theorem running_run (out : Outlet σ) (schedule : Schedule) (v₀ : View) (s : σ) :
    Running out v₀ (run out schedule v₀ s).toProgress :=
  (run_induction (fun _ => .poll schedule) (fun _ time a => .act time a) (.start s)).1

/-! ## Histories -/

/-- A running view is one that a program can arrive at. -/
theorem reachable_of_running {out : Outlet σ} {v₀ : View} {p : Progress σ}
    (hp : Running out v₀ p) :
    ∃ h, Reachable out v₀ h ∧ h.view = p.view ∧ h.surroundings = p.surroundings := by
  induction hp with
  | start s => exact ⟨_, .tail .refresh (.init s), rfl, rfl⟩
  | @poll p schedule _ ih =>
      obtain ⟨h, hr, hview, hs⟩ := ih
      refine ⟨_, .tail (.tick (schedule.reading p.polls)) hr, ?_, ?_⟩
      · simp only [History.next, Call.perform, hview, hs]
        rfl
      · simp only [History.next, Call.perform, hview, hs]
        rfl
  | @act p time a _ ih =>
      obtain ⟨h, hr, hview, hs⟩ := ih
      obtain ⟨v', changed, happly, _⟩ := apply_cases a p.view
      have hact := act_of_apply out p.surroundings happly
      -- for a program, an action that changes something is two calls: apply it, then redraw
      have hafter : h.next out (.apply a)
          = ⟨v', p.surroundings, ⟨h.view, .apply a, v'⟩ :: h.past⟩ := by
        simp only [History.next, Call.perform, hview, hs, happly]
      cases changed with
      | false =>
          refine ⟨_, .tail (.apply a) hr, ?_, ?_⟩
          · simp [hafter, Progress.act, Progress.note, hact]
          · simp [hafter, Progress.act, Progress.note, hact]
      | true =>
          refine ⟨_, .tail .refresh (.tail (.apply a) hr), ?_, ?_⟩
          · rw [hafter]; simp [Progress.act, Progress.note, hact, History.next, Call.perform]
          · rw [hafter]; simp [Progress.act, Progress.note, hact, History.next, Call.perform]

theorem sound_running {out : Outlet σ} {steps : List Step} {options : Options} {p : Progress σ}
    (hp : Running out (fresh steps options) p) : Sound steps p.view := by
  obtain ⟨h, hr, hview, _⟩ := reachable_of_running hp
  exact hview ▸ sound_reachable hr

theorem options_running {out : Outlet σ} {v₀ : View} {p : Progress σ} (hp : Running out v₀ p) :
    p.view.options = v₀.options := by
  obtain ⟨h, hr, hview, _⟩ := reachable_of_running hp
  exact hview ▸ options_reachable hr

/-! ## Reactions -/

/-- The view after an event, before it is redrawn. -/
def reacted (e : Event) (v : View) : View :=
  match e with
  | .poll reading => (v.receive reading).1
  | .action a => (v.apply a).1

/-- What reacting to an event can come to. -/
inductive Handled (v : View) : Event → View → Prop where
  | poll {reading : Option Reading} {v' : View} :
      Received v reading v' → Handled v (.poll reading) v'
  | action {a : Action} {v' : View} {changed : Bool} :
      Applied v a v' changed → Handled v (.action a) v'

theorem reacted_cases (e : Event) (v : View) : Handled v e (reacted e v) := by
  cases e with
  | poll reading =>
      obtain ⟨v', hv', hcases⟩ := receive_cases reading v
      have h : reacted (.poll reading) v = v' := by rw [reacted, hv']
      exact h ▸ .poll hcases
  | action a =>
      obtain ⟨v', changed, hv', hcases⟩ := apply_cases a v
      have h : reacted (.action a) v = v' := by rw [reacted, hv']
      exact h ▸ .action hcases

theorem handled_options {v v' : View} {e : Event} (h : Handled v e v') :
    v'.options = v.options := by
  cases h with
  | poll hrec => exact received_options hrec
  | action happ => exact applied_options happ

theorem handled_steps {v v' : View} {e : Event} (h : Handled v e v') :
    stepsOf v'.session = stepsOf v.session := by
  cases h with
  | poll hrec => exact received_steps hrec
  | action happ => exact applied_steps happ

/-- **Nothing changes without a mark.** Whatever leaves a session not stale has left it alone. -/
theorem eq_of_handled {v v' : View} {e : Event} (h : Handled v e v')
    (hfresh : v'.session.stale = false) : v' = v := by
  cases h with
  | poll hrec =>
      cases hrec with
      | same => rfl
      | released => exact absurd hfresh (by simp [Session.released])
      | recorded => exact absurd hfresh (by simp [recorded])
      | switched => exact absurd hfresh (by simp [switched, Session.reset])
      | switchedReleased => exact absurd hfresh (by simp [Session.released])
  | action happ =>
      cases happ with
      | ignored => rfl
      | skip => exact absurd hfresh (by simp [skipped])
      | reset => exact absurd hfresh (by simp [Session.reset])
      | back => exact absurd hfresh (by simp [Session.back])
      | done => exact absurd hfresh (by simp [Session.finish])

/-- **Both kinds of events are a reaction and a redraw**, if the session was not stale before. -/
theorem handle_of_fresh {v : View} (out : Outlet σ) (e : Event) (s : σ)
    (hfresh : v.session.stale = false) : v.handle out e s = (reacted e v).refresh out s := by
  cases e with
  | poll reading =>
      obtain ⟨v', hv', _⟩ := receive_cases reading v
      rw [handle, tick_of_receive out s hv', reacted, hv']
  | action a =>
      obtain ⟨v', changed, hv', hcases⟩ := apply_cases a v
      rw [handle, act_of_apply out s hv', reacted, hv']
      cases changed with
      | true => rfl
      | false =>
          -- an ignored action draws nothing, and neither would a redraw
          cases hcases with
          | ignored => exact (refresh_of_fresh out s hfresh).symm

theorem stale_refresh (out : Outlet σ) (v : View) (s : σ) :
    (v.refresh out s).1.session.stale = false := by
  obtain ⟨saved, hview, _⟩ := refresh_view out v s
  rw [hview]
  rfl

theorem stale_handle {v : View} (out : Outlet σ) (e : Event) (s : σ)
    (hfresh : v.session.stale = false) : (v.handle out e s).1.session.stale = false := by
  rw [handle_of_fresh out e s hfresh]
  exact stale_refresh out _ s

/-- **The session of a running view is never stale between two events.** -/
theorem stale_running {out : Outlet σ} {v₀ : View} {p : Progress σ} (hp : Running out v₀ p) :
    p.view.session.stale = false :=
  running_induction (P := fun p => p.view.session.stale = false) (fun s => stale_refresh out v₀ s)
    (fun _ e _ ih => stale_handle out e _ ih) (fun ih => ih) hp

end PadMapping.Proofs
