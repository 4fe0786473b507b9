import PadMapping.Proofs.View.Answers
import PadMapping.Proofs.View.Timeline

/-!
# What is refused leaves no trace

An action is possible exactly if it would change something: going back is refused at the first step,
going on once the session is finished, everything without a device. So an action that is possible
moves the session to another step, and one that is not possible does nothing at all: the session
keeps its rows, its step and its marks, nothing is noted about saving, nothing is drawn.

Hence actions that are refused where they come make no difference to what comes after them. This is
said twice: of a program that makes its calls one after the other (`performAll_interspersed`), and
of a running view, where more actions also means that the clock is looked at more often
(`sameRun_advance`; that this changes nothing is `pollUntil_trans`).
-/

namespace PadMapping.Proofs

open View

variable {σ : Type}

/-! ## One action -/

/-- The step to which an action leads. -/
def destination (s : Session) : Action → Nat
  | .skip => s.current + 1
  | .reset => 0
  | .back => s.current - 1
  | .done => s.size
  | .quit => s.current

/-- An action changes the session exactly if it is possible, is not quitting, and there is a device.
-/
theorem apply_eq_ok_true_iff {v : View} {a : Action} :
    (v.apply a).2 = .ok true
      ↔ v.device.isSome = true ∧ a ≠ .quit ∧ v.availability.allows a = true := by
  obtain ⟨v', changed, hv', happ⟩ := apply_cases a v
  rw [hv']
  cases happ with
  | ignored hrefused =>
      refine iff_of_false (by simp) ?_
      rintro ⟨_, hquit, hallowed⟩
      rcases hrefused with hrefused | rfl
      · rw [hrefused] at hallowed
        exact absurd hallowed (by simp)
      · exact hquit rfl
  | skip hdev hd | done hdev hd =>
      refine iff_of_true rfl ⟨hdev, by simp, ?_⟩
      rw [allows_eq]
      simp [hdev, hd]
  | reset hdev hc | back hdev hc =>
      refine iff_of_true rfl ⟨hdev, by simp, ?_⟩
      rw [allows_eq]
      simp [hdev, hc]

/-- An action that changes the session leads to its step, which is another one, and leaves a mark.
-/
theorem moved_of_apply {v : View} {a : Action} (h : (v.apply a).2 = .ok true) :
    (v.apply a).1.session.current = destination v.session a
      ∧ (v.apply a).1.session.current ≠ v.session.current
      ∧ (v.apply a).1.session.stale = true := by
  obtain ⟨v', changed, hv', happ⟩ := apply_cases a v
  rw [hv'] at h ⊢
  cases happ with
  | ignored => exact absurd h (by simp)
  | skip => exact ⟨rfl, Nat.succ_ne_self _, rfl⟩
  | reset _ hc => exact ⟨rfl, Ne.symm hc, rfl⟩
  | back _ hc =>
      refine ⟨rfl, ?_, rfl⟩
      show v.session.current - 1 ≠ v.session.current
      omega
  | done _ hd =>
      have hlt := isDone_eq_false_iff.mp hd
      refine ⟨rfl, ?_, rfl⟩
      show v.session.size ≠ v.session.current
      omega

/-- Any other action does nothing. -/
theorem apply_of_unchanged {v : View} {a : Action} (h : (v.apply a).2 ≠ .ok true) :
    v.apply a = (v, .ok false) := by
  obtain ⟨v', changed, hv', happ⟩ := apply_cases a v
  rw [hv'] at h
  cases happ with
  | ignored => exact hv'
  | skip | reset | back | done => exact absurd rfl h

/-- Nor does anything happen to the display or the folder. -/
theorem act_of_unchanged {v : View} {a : Action} (h : v.apply a = (v, .ok false))
    (out : Outlet σ) (s : σ) : v.act out a s = (v, s, .quiet) := by
  rw [act_of_apply out s h]
  rfl

theorem ne_quit_of_refused {v : View} {a : Action} (h : v.availability.allows a = false) :
    a ≠ .quit := by
  rintro rfl
  exact absurd h (by simp [Availability.allows])

/-! ## Calls -/

/-- The second list of calls has all of the first, and between them actions that are refused by the
view as it is then. -/
inductive CallsInterspersed (out : Outlet σ) : View → σ → List Call → List Call → Prop where
  | nothing {v : View} {s : σ} : CallsInterspersed out v s [] []
  | kept {v : View} {s : σ} {c : Call} {calls more : List Call} :
      CallsInterspersed out (c.perform out v s).1 (c.perform out v s).2 calls more →
      CallsInterspersed out v s (c :: calls) (c :: more)
  | refused {v : View} {s : σ} {a : Action} {calls more : List Call} :
      v.availability.allows a = false → CallsInterspersed out v s calls more →
      CallsInterspersed out v s calls (.apply a :: more)

/-- The response in an answer; actions have none. -/
def Answer.response? : Answer → Option Response
  | .response r => some r
  | .changed _ => none

theorem performAll_interspersed {out : Outlet σ} {v : View} {s : σ} {calls more : List Call}
    (h : CallsInterspersed out v s calls more) :
    performAll out v s more = performAll out v s calls
      ∧ (answers out v s more).filterMap Answer.response?
        = (answers out v s calls).filterMap Answer.response? := by
  induction h with
  | nothing => exact ⟨rfl, rfl⟩
  | @kept v s c calls more _ ih =>
      refine ⟨ih.1, ?_⟩
      rw [answers, answers, List.filterMap_cons, List.filterMap_cons, ih.2]
  | @refused v s a calls more hrefused _ ih =>
      have hsame : (Call.apply a).perform out v s = (v, s) := by
        rw [Call.perform, apply_of_refused (Or.inl hrefused)]
      rw [performAll, answers, hsame]
      exact ih

/-! ## The clock -/

section

variable {out : Outlet σ} {schedule : Schedule} {p : Progress σ} {time : Nat}

theorem pollUntil_of_over (h : time < p.nextPoll) : p.pollUntil out schedule time = .ok p := by
  rw [Progress.pollUntil, if_neg (Nat.not_le.mpr h)]

theorem pollUntil_of_due (h : p.nextPoll ≤ time)
    (hok : (p.poll out schedule).lastResult = .ok ()) :
    p.pollUntil out schedule time = (p.poll out schedule).pollUntil out schedule time := by
  rw [Progress.pollUntil, if_pos h]
  simp only [hok]

theorem pollUntil_of_failed {fault : View.Fault} (h : p.nextPoll ≤ time)
    (hfault : (p.poll out schedule).lastResult = .error fault) :
    p.pollUntil out schedule time
      = .error ((p.poll out schedule).stop p.nextPoll (.error fault)) := by
  rw [Progress.pollUntil, if_pos h]
  simp only [hfault]

/-- To look at the clock on the way changes nothing. -/
theorem pollUntil_trans {later : Nat} (hle : time ≤ later) :
    p.pollUntil out schedule later
      = match p.pollUntil out schedule time with
        | .error ended => .error ended
        | .ok p' => p'.pollUntil out schedule later := by
  fun_induction Progress.pollUntil out schedule time p with
  | case1 p hdue next fault hfault =>
      exact pollUntil_of_failed (Nat.le_trans hdue hle) hfault
  | case2 p hdue next hok ih =>
      rw [pollUntil_of_due (Nat.le_trans hdue hle) hok]
      exact ih
  | case3 p hover => rfl

end

/-! ## Runs -/

/-- Whether a response tells of anything: a frame, an attempt to save, or a fault. -/
def tells (r : Response) : Bool := r.frame.isSome || r.attempt.isSome || !r.result.isOk

/-- The entries of a log that tell of anything. -/
def told (log : List (Nat × Response × σ)) : List (Nat × Response × σ) :=
  log.filter fun entry => tells entry.2.1

/-- Two runs that differ in nothing but entries of their logs that tell of nothing. -/
structure Matching (p q : Progress σ) : Prop where
  view : p.view = q.view
  surroundings : p.surroundings = q.surroundings
  polls : p.polls = q.polls
  log : told p.log = told q.log

/-- Two runs that have ended in the same way, at the same time. -/
structure SameRun (a b : Ended σ) : Prop extends Matching a.toProgress b.toProgress where
  time : a.time = b.time
  result : a.result = b.result

/-- The second list of actions has all of the first, and between them actions that are refused when
they get their turn, in the order of time. What comes after the end of the run does not matter. -/
inductive Interspersed (out : Outlet σ) (schedule : Schedule) :
    Progress σ → List (Nat × Action) → List (Nat × Action) → Prop where
  | nothing {p : Progress σ} : Interspersed out schedule p [] []
  | kept {p : Progress σ} {time : Nat} {a : Action} {actions more : List (Nat × Action)} :
      (∀ p', p.pollUntil out schedule time = .ok p' → a ≠ .quit →
        (p'.act out time a).lastResult = .ok () →
        Interspersed out schedule (p'.act out time a) actions more) →
      Interspersed out schedule p ((time, a) :: actions) ((time, a) :: more)
  | refused {p : Progress σ} {time : Nat} {a : Action} {actions more : List (Nat × Action)} :
      time ≤ nextStop schedule actions →
      (∀ p', p.pollUntil out schedule time = .ok p' → p'.view.availability.allows a = false) →
      (∀ p', p.pollUntil out schedule time = .ok p' → Interspersed out schedule p' actions more) →
      Interspersed out schedule p actions ((time, a) :: more)

section

variable {out : Outlet σ} {schedule schedule' : Schedule} {p q : Progress σ}

theorem Matching.nextPoll (h : Matching p q) : p.nextPoll = q.nextPoll := by
  rw [Progress.nextPoll, Progress.nextPoll, h.polls, h.view]

theorem Matching.note (h : Matching p q) (time : Nat) (outcome : View × σ × Response) :
    Matching (p.note time outcome) (q.note time outcome) := by
  refine ⟨rfl, rfl, h.polls, ?_⟩
  show told (_ :: p.log) = told (_ :: q.log)
  rw [told, told, List.filter_cons, List.filter_cons]
  have hlog := h.log
  rw [told, told] at hlog
  rw [hlog]

theorem Matching.act (out : Outlet σ) (h : Matching p q) (time : Nat) (a : Action) :
    Matching (p.act out time a) (q.act out time a)
      ∧ (p.act out time a).lastResult = (q.act out time a).lastResult := by
  rw [Progress.act, Progress.act, h.view, h.surroundings]
  exact ⟨h.note time _, rfl⟩

/-- A refused action leaves an entry that tells of nothing. -/
theorem Matching.act_refused (out : Outlet σ) (h : Matching p q) (time : Nat) {a : Action}
    (hrefused : p.view.availability.allows a = false) :
    Matching p (q.act out time a) ∧ (q.act out time a).lastResult = .ok () := by
  rw [h.view] at hrefused
  rw [Progress.act, act_of_unchanged (apply_of_refused (Or.inl hrefused))]
  exact ⟨⟨h.view, h.surroundings, h.polls, h.log⟩, rfl⟩

theorem Matching.poll (out : Outlet σ) (h : Matching p q)
    (hreading : schedule'.reading = schedule.reading) :
    Matching (p.poll out schedule) (q.poll out schedule')
      ∧ (p.poll out schedule).lastResult = (q.poll out schedule').lastResult := by
  have hq : q.poll out schedule' = { q.note p.nextPoll
      (p.view.tick out (schedule.reading p.polls) p.surroundings) with polls := p.polls + 1 } := by
    rw [Progress.poll, hreading, ← h.polls, ← h.view, ← h.surroundings, ← h.nextPoll]
  obtain ⟨hview, hsurroundings, _, hlog⟩ :=
    h.note p.nextPoll (p.view.tick out (schedule.reading p.polls) p.surroundings)
  rw [hq]
  exact ⟨⟨hview, hsurroundings, rfl, hlog⟩, rfl⟩

/-- Runs that match poll alike. -/
theorem matching_pollUntil (out : Outlet σ) (hreading : schedule'.reading = schedule.reading)
    (time : Nat) :
    ∀ {q : Progress σ}, Matching p q →
      (∃ a b, p.pollUntil out schedule time = .error a ∧ q.pollUntil out schedule' time = .error b
          ∧ SameRun a b)
        ∨ ∃ p' q', p.pollUntil out schedule time = .ok p'
          ∧ q.pollUntil out schedule' time = .ok q' ∧ Matching p' q' := by
  -- along the polls of the first run; the same ones are due in the second
  fun_induction Progress.pollUntil out schedule time p with
  | case1 p hdue next fault =>
      rename_i hfault
      intro q h
      obtain ⟨hnext, hlast⟩ := h.poll out hreading
      have hfault' : (q.poll out schedule').lastResult = .error fault := by rw [← hlast, hfault]
      have htime := h.nextPoll
      left
      refine ⟨_, _, rfl, pollUntil_of_failed (htime ▸ hdue) hfault', ⟨hnext, htime, rfl⟩⟩
  | case2 p hdue next hok =>
      rename_i ih
      intro q h
      obtain ⟨hnext, hlast⟩ := h.poll out hreading
      have hok' : (q.poll out schedule').lastResult = .ok () := by rw [← hlast, hok]
      rw [pollUntil_of_due (h.nextPoll ▸ hdue) hok']
      exact ih hnext
  | case3 p hover =>
      intro q h
      right
      exact ⟨p, q, rfl, pollUntil_of_over (Nat.lt_of_not_le (h.nextPoll ▸ hover)), h⟩

/-- So two runs are the same if they go on in the same way after their polls. -/
theorem sameRun_of_pollUntil (hreading : schedule'.reading = schedule.reading) (time : Nat)
    (h : Matching p q) {next next' : Progress σ → Ended σ}
    (hnext : ∀ p' q', p.pollUntil out schedule time = .ok p' → Matching p' q' →
      SameRun (next p') (next' q')) :
    SameRun
      (match p.pollUntil out schedule time with
        | .error ended => ended
        | .ok p' => next p')
      (match q.pollUntil out schedule' time with
        | .error ended => ended
        | .ok q' => next' q') := by
  rcases matching_pollUntil out hreading time h
    with ⟨a, b, ha, hb, hab⟩ | ⟨p', q', hp', hq', h'⟩
  · rw [ha, hb]
    exact hab
  · rw [hp', hq']
    exact hnext p' q' hp' h'

/-- Looking at the clock before the next action, or before the close, changes nothing. -/
theorem advance_of_pollUntil {actions : List (Nat × Action)} {time : Nat}
    (hle : time ≤ nextStop schedule actions) :
    p.advance out schedule actions
      = match p.pollUntil out schedule time with
        | .error ended => ended
        | .ok p' => p'.advance out schedule actions := by
  cases actions with
  | nil =>
      rw [Progress.advance, pollUntil_trans (show time ≤ schedule.close from hle)]
      cases p.pollUntil out schedule time with
      | error ended => rfl
      | ok p' => rfl
  | cons next rest =>
      obtain ⟨later, action⟩ := next
      rw [Progress.advance, pollUntil_trans (show time ≤ later from hle)]
      cases p.pollUntil out schedule time with
      | error ended => rfl
      | ok p' => rfl

/-- **Refused actions change nothing about the rest of a run.** -/
theorem sameRun_advance (hreading : schedule'.reading = schedule.reading)
    (hclose : schedule'.close = schedule.close) {actions more : List (Nat × Action)}
    (hmore : Interspersed out schedule p actions more) (h : Matching p q) :
    SameRun (p.advance out schedule actions) (q.advance out schedule' more) := by
  induction hmore generalizing q with
  | nothing =>
      rw [Progress.advance, Progress.advance, hclose]
      refine sameRun_of_pollUntil hreading schedule.close h fun p' q' _ h' => ?_
      exact ⟨h', rfl, rfl⟩
  | @kept p time action actions more _ ih =>
      rw [Progress.advance, Progress.advance]
      refine sameRun_of_pollUntil hreading time h fun p' q' hp' h' => ?_
      by_cases hquit : action = .quit
      · rw [if_pos hquit, if_pos hquit]
        exact ⟨h', rfl, rfl⟩
      · obtain ⟨hact, hlast⟩ := h'.act out time action
        rw [if_neg hquit, if_neg hquit]
        dsimp only
        rw [← hlast]
        cases hresult : (p'.act out time action).lastResult with
        | error fault => exact ⟨hact, rfl, rfl⟩
        | ok _ => exact ih p' hp' hquit hresult hact
  | @refused p time action actions more hle hrefused _ ih =>
      rw [advance_of_pollUntil hle, Progress.advance]
      refine sameRun_of_pollUntil hreading time h fun p' q' hp' h' => ?_
      have hno := hrefused p' hp'
      obtain ⟨hsame, hok⟩ := h'.act_refused out time hno
      rw [if_neg (ne_quit_of_refused hno)]
      simp only [hok]
      exact ih p' hp' hsame

end

/-- A running view after its first frame. -/
def started (out : Outlet σ) (v : View) (s : σ) : Progress σ :=
  Progress.note ⟨v, s, 0, []⟩ 0 (v.refresh out s)

/--
**An action that is possible changes something, and any other one nothing at all.**

Of every view this holds: an action changes the session exactly if there is a device, the action is
possible, and it is not quitting. It then leads to the step it stands for, which is not the one
before, and the session is to be redrawn. In every other case the view, the display and the folder
stay as they are.

So actions that are not possible make no difference wherever they come between others. The calls of
a program lead to the same view, the same surroundings and the same responses. A run has the same
frames, the same attempts to save and the same faults at the same times, and ends at the same time
with the same result, the same view and the same surroundings.
-/
theorem changed_iff_allowed (out : Outlet σ) (v : View) (s : σ) :
    (∀ a, ((v.apply a).2 = .ok true
          ↔ v.device.isSome = true ∧ a ≠ .quit ∧ v.availability.allows a = true)
        ∧ ((v.apply a).2 = .ok true →
          (v.apply a).1.session.current = destination v.session a
            ∧ (v.apply a).1.session.current ≠ v.session.current
            ∧ (v.apply a).1.session.stale = true)
        ∧ ((v.apply a).2 ≠ .ok true →
          v.apply a = (v, .ok false) ∧ v.act out a s = (v, s, .quiet)))
      ∧ (∀ calls more, CallsInterspersed out v s calls more →
          performAll out v s more = performAll out v s calls
            ∧ (answers out v s more).filterMap Answer.response?
              = (answers out v s calls).filterMap Answer.response?)
      ∧ ∀ schedule more,
          ((started out v s).lastResult = .ok () →
            Interspersed out schedule (started out v s) schedule.actions more) →
          SameRun (run out schedule v s) (run out { schedule with actions := more } v s) := by
  refine ⟨fun a => ⟨apply_eq_ok_true_iff, moved_of_apply, fun h => ?_⟩, ?_, ?_⟩
  · have hsame := apply_of_unchanged h
    exact ⟨hsame, act_of_unchanged hsame out s⟩
  · intro calls more h
    exact performAll_interspersed h
  · intro schedule more h
    have hstart : Matching (started out v s) (started out v s) := ⟨rfl, rfl, rfl, rfl⟩
    have hrun : ∀ schedule' : Schedule, run out schedule' v s = unlessFailed 0 (started out v s)
        (Progress.advance out schedule' schedule'.actions) := fun _ => rfl
    rw [hrun, hrun, unlessFailed, unlessFailed]
    split
    · exact ⟨hstart, rfl, rfl⟩
    · rename_i hok
      have hreading : ({ schedule with actions := more } : Schedule).reading
          = schedule.reading := rfl
      exact sameRun_advance hreading rfl (h hok) hstart

/-- A device that nobody touches, and a user who passes the only step. -/
def onePassed : Schedule :=
  ⟨fun _ => some (buttonReading ⟨"Pad", 1⟩ false), [(20, .skip)], 40⟩

/-- The same, and the user also tries to drop nothing and to finish what is finished. -/
def onePassedMore : Schedule :=
  { onePassed with actions := [(10, .reset), (20, .skip), (30, .done)] }

/-- A view with one step. -/
def oneStep : View := fresh [⟨"Fire", .button, 0⟩] .standard

/-- Its run once the device is found. -/
def onePassedFound : Progress Unit :=
  (started plainOutlet oneStep ()).poll plainOutlet onePassed

/-- At the first step there is nothing to drop, and after the last one nothing to finish. -/
theorem run_of_refused_actions :
    Interspersed plainOutlet onePassed (started plainOutlet oneStep ()) onePassed.actions
        onePassedMore.actions
      ∧ SameRun (run plainOutlet onePassed oneStep ()) (run plainOutlet onePassedMore oneStep ())
      ∧ (onePassedFound.view.apply .skip).2 = .ok true
      ∧ (onePassedFound.view.apply .skip).1.session.current = 1 := by
  have hfirst : (started plainOutlet oneStep ()).pollUntil plainOutlet onePassed 10
      = .ok onePassedFound := by
    rw [pollUntil_of_due (by decide) rfl, pollUntil_of_over (by decide)]
    rfl
  have hsecond : onePassedFound.pollUntil plainOutlet onePassed 20 = .ok onePassedFound :=
    pollUntil_of_over (by decide)
  have hthird : (onePassedFound.act plainOutlet 20 .skip).pollUntil plainOutlet onePassed 30
      = .ok (onePassedFound.act plainOutlet 20 .skip) := pollUntil_of_over (by decide)
  have hreset : onePassedFound.view.availability.allows .reset = false := by decide +kernel
  have hdone : (onePassedFound.act plainOutlet 20 .skip).view.availability.allows .done
      = false := by decide +kernel
  have hmore : Interspersed plainOutlet onePassed (started plainOutlet oneStep ())
      onePassed.actions onePassedMore.actions := by
    refine .refused (by decide) (fun p' hp' => ?_) fun p' hp' => ?_
    · rw [hfirst] at hp'
      injection hp' with hp'
      exact hp' ▸ hreset
    · rw [hfirst] at hp'
      injection hp' with hp'
      subst hp'
      refine .kept fun p' hp' _ _ => ?_
      rw [hsecond] at hp'
      injection hp' with hp'
      subst hp'
      refine .refused (by decide) (fun p' hp' => ?_) fun p' _ => .nothing
      rw [hthird] at hp'
      injection hp' with hp'
      exact hp' ▸ hdone
  obtain ⟨_, _, hruns⟩ := changed_iff_allowed plainOutlet oneStep ()
  obtain ⟨happly, _⟩ := changed_iff_allowed plainOutlet onePassedFound.view ()
  have hskip : (onePassedFound.view.apply .skip).2 = .ok true :=
    (happly .skip).1.mpr ⟨by decide +kernel, by decide, by decide +kernel⟩
  exact ⟨hmore, hruns onePassed _ fun _ => hmore, hskip, ((happly .skip).2.1 hskip).1⟩

end PadMapping.Proofs
