import PadMapping.Proofs.View.Running
import PadMapping.Terminal

/-!
# A run is the sequence of its events

A running view listens to two sources at a time: a clock that says when to poll, and lines of input
that may hold actions. This module takes the two apart from the loop that serves them. A `Timeline`
is any list of polls and lines in the order of time; `follow` goes through such a list one entry
after the other and knows of no clock. `run_eq_followed` says that a run is nothing but that: no
event gets lost, comes twice or out of order, and none comes after the end.

If a line came at the very time of a poll there would be two orders of time. So it is asked that no
line does, and then every timeline gives the same run, and there is one (`timeline_arranged`).
-/

namespace PadMapping.Proofs

open View

variable {σ : Type}

/-- What reaches a running view at one time. -/
inductive Arrival where
  /-- The poll of this number is due. -/
  | poll (number : Nat)
  /-- A line is entered. -/
  | line (text : String)
deriving DecidableEq, Repr

def pollOf? : Nat × Arrival → Option (Nat × Nat)
  | (time, .poll number) => some (time, number)
  | (_, .line _) => none

def lineOf? : Nat × Arrival → Option (Nat × String)
  | (_, .poll _) => none
  | (time, .line text) => some (time, text)

/-- The polls that are due by `close`, from the one of number `first` on, with their times. -/
def pollsFrom (interval close first : Nat) : List (Nat × Nat) :=
  (List.range' first (close / interval + 1 - first)).map fun number => (number * interval, number)

/-- The polls from number `first` on and the given lines, in an order of time. -/
structure Timeline (interval close first : Nat) (lines : List (Nat × String))
    (arrivals : List (Nat × Arrival)) : Prop where
  /-- Nothing comes before what is earlier. -/
  sorted : arrivals.Pairwise fun a b => a.1 ≤ b.1
  polls : arrivals.filterMap pollOf? = pollsFrom interval close first
  lines : arrivals.filterMap lineOf? = lines

/-! ## The clock -/

theorem pollsFrom_of_due {interval close first : Nat} (hpos : 0 < interval)
    (h : first * interval ≤ close) :
    pollsFrom interval close first
      = (first * interval, first) :: pollsFrom interval close (first + 1) := by
  have hle : first ≤ close / interval := (Nat.le_div_iff_mul_le hpos).mpr h
  have hcount : close / interval + 1 - first = (close / interval + 1 - (first + 1)) + 1 := by omega
  rw [pollsFrom, hcount, List.range'_succ]
  rfl

theorem pollsFrom_of_over {interval close first : Nat} (hpos : 0 < interval)
    (h : close < first * interval) : pollsFrom interval close first = [] := by
  have hlt : close / interval < first := (Nat.div_lt_iff_lt_mul hpos).mpr h
  have hcount : close / interval + 1 - first = 0 := by omega
  rw [pollsFrom, hcount]
  rfl

/-! ## The first entry of a timeline -/

section

variable {interval close first time : Nat} {lines : List (Nat × String)}
  {rest : List (Nat × Arrival)}

/-- Nothing arrives any more when the next poll is due after the close and no line is left. -/
theorem over_of_timeline_nil (hpos : 0 < interval) (h : Timeline interval close first lines []) :
    close < first * interval ∧ lines = [] := by
  refine ⟨?_, h.lines.symm⟩
  rcases Nat.lt_or_ge close (first * interval) with hover | hdue
  · exact hover
  · have hpolls := h.polls
    rw [pollsFrom_of_due hpos hdue] at hpolls
    exact absurd hpolls (by simp)

/-- A poll that comes first is the next one, comes at its time, and no line comes before it. -/
theorem timeline_poll {number : Nat} (hpos : 0 < interval)
    (h : Timeline interval close first lines ((time, .poll number) :: rest)) :
    number = first ∧ time = first * interval ∧ time ≤ close ∧ (∀ line ∈ lines, time ≤ line.1)
      ∧ Timeline interval close (first + 1) lines rest := by
  obtain ⟨hhead, hsorted⟩ := List.pairwise_cons.mp h.sorted
  have hpolls : (time, number) :: rest.filterMap pollOf? = pollsFrom interval close first := h.polls
  have hlines : rest.filterMap lineOf? = lines := h.lines
  have hdue : first * interval ≤ close := by
    rcases Nat.lt_or_ge close (first * interval) with hover | hdue
    · rw [pollsFrom_of_over hpos hover] at hpolls
      exact absurd hpolls (by simp)
    · exact hdue
  rw [pollsFrom_of_due hpos hdue] at hpolls
  injection hpolls with hfirst hpolls
  injection hfirst with htime hnumber
  subst htime; subst hnumber
  refine ⟨rfl, rfl, hdue, ?_, hsorted, hpolls, hlines⟩
  intro line hline
  rw [← hlines] at hline
  obtain ⟨arrival, harrival, heq⟩ := List.mem_filterMap.mp hline
  obtain ⟨time', poll' | text⟩ := arrival
  · exact absurd heq (by simp [lineOf?])
  · injection heq with heq
    subst heq
    exact hhead _ harrival

/-- A line that comes first does not come after the next poll that is due. -/
theorem timeline_line {text : String} (hpos : 0 < interval)
    (h : Timeline interval close first lines ((time, .line text) :: rest)) :
    ∃ lines', lines = (time, text) :: lines' ∧ Timeline interval close first lines' rest
      ∧ (first * interval ≤ close → time ≤ first * interval) := by
  obtain ⟨hhead, hsorted⟩ := List.pairwise_cons.mp h.sorted
  have hpolls : rest.filterMap pollOf? = pollsFrom interval close first := h.polls
  refine ⟨rest.filterMap lineOf?, h.lines.symm, ⟨hsorted, hpolls, rfl⟩, ?_⟩
  intro hdue
  rw [pollsFrom_of_due hpos hdue] at hpolls
  have hmem : (first * interval, first) ∈ rest.filterMap pollOf? := by
    rw [hpolls]
    exact List.mem_cons_self
  obtain ⟨arrival, harrival, heq⟩ := List.mem_filterMap.mp hmem
  obtain ⟨time', number | text'⟩ := arrival
  · injection heq with heq
    injection heq with htime _
    subst htime
    exact hhead _ harrival
  · exact absurd heq (by simp [pollOf?])

end

/-! ## One entry after the other -/

/-- Goes on with a run unless its last event was an error. -/
def unlessFailed (time : Nat) (p : Progress σ) (next : Progress σ → Ended σ) : Ended σ :=
  match p.lastResult with
  | .error fault => p.stop time (.error fault)
  | .ok () => next p

/-- Goes through a timeline. A poll is a tick on its reading. A line is applied, with a redraw if
that changed the session, unless it is quitting or no action at all. The first error, the first
quitting or else the close is the end. -/
def follow (out : Outlet σ) (reading : Nat → Option Reading) (close : Nat) :
    List (Nat × Arrival) → Progress σ → Ended σ
  | [], p => p.stop close (.ok ())
  | (time, .poll number) :: rest, p =>
    let next := p.note time (p.view.tick out (reading number) p.surroundings)
    unlessFailed time { next with polls := p.polls + 1 } (follow out reading close rest)
  | (time, .line text) :: rest, p =>
    match Action.ofLine? text with
    | none => follow out reading close rest p
    | some action =>
      if action = .quit then p.stop time (.ok ())
      else
        unlessFailed time (p.note time (p.view.act out action p.surroundings))
          (follow out reading close rest)

/-- Draws the first frame, then goes through a timeline. -/
def followed (out : Outlet σ) (reading : Nat → Option Reading) (close : Nat)
    (arrivals : List (Nat × Arrival)) (v : View) (s : σ) : Ended σ :=
  unlessFailed 0 (Progress.note ⟨v, s, 0, []⟩ 0 (v.refresh out s))
    (follow out reading close arrivals)

/-- The actions in lines of input, at the times of the lines. -/
def actionsAt (lines : List (Nat × String)) : List (Nat × Action) :=
  lines.filterMap fun line => (Action.ofLine? line.2).map (line.1, ·)

/-- What reaches a running view when lines are entered until the close. -/
def entered (reading : Nat → Option Reading) (lines : List (Nat × String)) (close : Nat) :
    Schedule :=
  ⟨reading, actionsAt (lines.filter (·.1 ≤ close)), close⟩

/-! ## The loop -/

/-- When the loop has to look up from the clock: at the next action, or else at the close. -/
def nextStop (schedule : Schedule) : List (Nat × Action) → Nat
  | [] => schedule.close
  | (time, _) :: _ => time

/-- A poll that is due comes first. -/
theorem advance_of_due {out : Outlet σ} {schedule : Schedule} {actions : List (Nat × Action)}
    {p : Progress σ} (hdue : p.nextPoll ≤ nextStop schedule actions) :
    p.advance out schedule actions
      = unlessFailed p.nextPoll (p.poll out schedule) (Progress.advance out schedule actions) := by
  cases actions with
  | nil =>
      have hdue' : p.nextPoll ≤ schedule.close := hdue
      rw [Progress.advance, Progress.pollUntil, if_pos hdue', unlessFailed]
      cases hlast : (p.poll out schedule).lastResult with
      | error fault => simp only [hlast]
      | ok _ => simp only [hlast, Progress.advance]
  | cons next rest =>
      obtain ⟨time, action⟩ := next
      have hdue' : p.nextPoll ≤ time := hdue
      rw [Progress.advance, Progress.pollUntil, if_pos hdue', unlessFailed]
      cases hlast : (p.poll out schedule).lastResult with
      | error fault => simp only [hlast]
      | ok _ => simp only [hlast, Progress.advance]

/-- An action before the next poll comes first. -/
theorem advance_of_action {out : Outlet σ} {schedule : Schedule} {time : Nat} {action : Action}
    {rest : List (Nat × Action)} {p : Progress σ} (hlater : time < p.nextPoll) :
    p.advance out schedule ((time, action) :: rest)
      = if action = .quit then p.stop time (.ok ())
        else unlessFailed time (p.act out time action) (Progress.advance out schedule rest) := by
  rw [Progress.advance, Progress.pollUntil, if_neg (Nat.not_le.mpr hlater)]
  rfl

theorem advance_of_over {out : Outlet σ} {schedule : Schedule} {p : Progress σ}
    (hover : schedule.close < p.nextPoll) :
    p.advance out schedule [] = p.stop schedule.close (.ok ()) := by
  rw [Progress.advance, Progress.pollUntil, if_neg (Nat.not_le.mpr hover)]

theorem unlessFailed_congr {time : Nat} {p : Progress σ} {next next' : Progress σ → Ended σ}
    (h : next p = next' p) : unlessFailed time p next = unlessFailed time p next' := by
  rw [unlessFailed, unlessFailed, h]

theorem options_tick (out : Outlet σ) (reading : Option Reading) (v : View) (s : σ) :
    (v.tick out reading s).1.options = v.options :=
  performed_options (perform_cases out v s (.tick reading))

theorem options_act (out : Outlet σ) (a : Action) (v : View) (s : σ) :
    (v.act out a s).1.options = v.options := by
  obtain ⟨v', changed, hv', happ⟩ := apply_cases a v
  rw [act_of_apply out s hv', ← applied_options happ]
  cases changed with
  | true => exact performed_options (perform_cases out v' s .refresh)
  | false => rfl

theorem nextPoll_eq {p : Progress σ} (hpos : 0 < p.view.options.interval) :
    p.nextPoll = p.polls * p.view.options.interval := by
  rw [Progress.nextPoll, Options.period, Nat.max_eq_right hpos]

/-- Nothing in the way of a poll: it is due by the close, and no line comes before it. -/
theorem le_nextStop {schedule : Schedule} {time : Nat} {lines : List (Nat × String)}
    (hclose : time ≤ schedule.close) (hlines : ∀ line ∈ lines, time ≤ line.1) :
    time ≤ nextStop schedule (actionsAt lines) := by
  cases hacts : actionsAt lines with
  | nil => exact hclose
  | cons next rest =>
      have hmem : next ∈ actionsAt lines := by
        rw [hacts]
        exact List.mem_cons_self
      obtain ⟨line, hline, heq⟩ := List.mem_filterMap.mp hmem
      obtain ⟨action, _, rfl⟩ := Option.map_eq_some_iff.mp heq
      exact hlines line hline

/-- **The loop goes through its timeline.** At every entry the loop, with the clock and the lines
that are left, does what the entry says. -/
theorem advance_eq_follow (out : Outlet σ) (schedule : Schedule) {interval : Nat}
    (hpos : 0 < interval) (arrivals : List (Nat × Arrival)) :
    ∀ {lines : List (Nat × String)} {p : Progress σ}, p.view.options.interval = interval →
      Timeline interval schedule.close p.polls lines arrivals →
      (∀ line ∈ lines, line.1 ≤ schedule.close) → (∀ line ∈ lines, ¬ interval ∣ line.1) →
      p.advance out schedule (actionsAt lines)
        = follow out schedule.reading schedule.close arrivals p := by
  induction arrivals with
  | nil =>
      intro lines p hinterval htimeline _ _
      subst hinterval
      obtain ⟨hover, rfl⟩ := over_of_timeline_nil hpos htimeline
      rw [← nextPoll_eq hpos] at hover
      exact advance_of_over hover
  | cons arrival rest ih =>
      intro lines p hinterval htimeline hclose hapart
      subst hinterval
      have hnext := nextPoll_eq hpos
      obtain ⟨time, number | text⟩ := arrival
      · obtain ⟨rfl, htime, hdue, hbefore, hrest⟩ := timeline_poll hpos htimeline
        rw [← hnext] at htime
        subst htime
        rw [advance_of_due (le_nextStop hdue hbefore), follow]
        have hopt : (p.poll out schedule).view.options = p.view.options :=
          options_tick out (schedule.reading p.polls) p.view p.surroundings
        exact unlessFailed_congr (ih (congrArg Options.interval hopt) hrest hclose hapart)
      · obtain ⟨lines', rfl, hrest, hbefore⟩ := timeline_line hpos htimeline
        -- it does not come at the time of the next poll, so it comes before it
        have hlater : time < p.nextPoll := by
          have hne : time ≠ p.nextPoll := by
            intro heq
            refine hapart (time, text) List.mem_cons_self ?_
            rw [heq, hnext]
            exact Nat.dvd_mul_left _ _
          have hle : time ≤ schedule.close := hclose (time, text) List.mem_cons_self
          rw [← hnext] at hbefore
          omega
        have hclose' : ∀ line ∈ lines', line.1 ≤ schedule.close := fun line h =>
          hclose line (List.mem_cons_of_mem _ h)
        have hapart' : ∀ line ∈ lines', ¬ p.view.options.interval ∣ line.1 := fun line h =>
          hapart line (List.mem_cons_of_mem _ h)
        rw [follow, actionsAt, List.filterMap_cons]
        cases haction : Action.ofLine? text with
        | none =>
            -- the loop does not hear of such a line at all
            exact ih rfl hrest hclose' hapart'
        | some action =>
            show p.advance out schedule ((time, action) :: actionsAt lines') = _
            rw [advance_of_action hlater]
            dsimp only
            by_cases hquit : action = .quit
            · rw [if_pos hquit, if_pos hquit]
            · rw [if_neg hquit, if_neg hquit]
              have hopt : (p.act out time action).view.options = p.view.options :=
                options_act out action p.view p.surroundings
              exact unlessFailed_congr (ih (congrArg Options.interval hopt) hrest hclose' hapart')

/-! ## No poll after the end -/

/-- Whichever way a timeline ends, the polls that were made were due by then. -/
theorem polls_follow (out : Outlet σ) (reading : Nat → Option Reading) {interval close : Nat}
    (hpos : 0 < interval) (arrivals : List (Nat × Arrival)) :
    ∀ {lines : List (Nat × String)} {p : Progress σ},
      Timeline interval close p.polls lines arrivals →
      (∀ k < p.polls, k * interval ≤ close ∧ ∀ arrival ∈ arrivals, k * interval ≤ arrival.1) →
      ∀ k < (follow out reading close arrivals p).polls,
        k * interval ≤ (follow out reading close arrivals p).time := by
  induction arrivals with
  | nil =>
      intro lines p _ hpast k hk
      exact (hpast k hk).1
  | cons arrival rest ih =>
      intro lines p htimeline hpast
      obtain ⟨hhead, _⟩ := List.pairwise_cons.mp htimeline.sorted
      obtain ⟨time, number | text⟩ := arrival
      · obtain ⟨rfl, rfl, hdue, _, hrest⟩ := timeline_poll hpos htimeline
        -- the polls that were made are due by this one, and so by whatever comes later
        have hmade : ∀ k < p.polls + 1, k * interval ≤ p.polls * interval := fun k hk =>
          Nat.mul_le_mul_right _ (Nat.le_of_lt_succ hk)
        rw [follow, unlessFailed]
        split
        · exact hmade
        · refine ih hrest ?_
          intro k hk
          refine ⟨Nat.le_trans (hmade k hk) hdue, ?_⟩
          intro arrival harrival
          exact Nat.le_trans (hmade k hk) (hhead arrival harrival)
      · obtain ⟨lines', _, hrest, _⟩ := timeline_line hpos htimeline
        have hpast' : ∀ k < p.polls,
            k * interval ≤ close ∧ ∀ arrival ∈ rest, k * interval ≤ arrival.1 := fun k hk =>
          ⟨(hpast k hk).1, fun arrival h => (hpast k hk).2 arrival (List.mem_cons_of_mem _ h)⟩
        have hnow : ∀ k < p.polls, k * interval ≤ time := fun k hk =>
          (hpast k hk).2 _ List.mem_cons_self
        rw [follow]
        cases haction : Action.ofLine? text with
        | none => exact ih hrest hpast'
        | some action =>
            dsimp only
            by_cases hquit : action = .quit
            · rw [if_pos hquit]
              exact hnow
            · rw [if_neg hquit, unlessFailed]
              split
              · exact hnow
              · exact ih hrest hpast'

/-! ## There is a timeline -/

/-- All polls and lines until the close, merged by their times. -/
def arranged (interval close : Nat) (lines : List (Nat × String)) : List (Nat × Arrival) :=
  ((pollsFrom interval close 0).map fun poll => (poll.1, .poll poll.2)).merge
    (lines.map fun line => (line.1, .line line.2)) fun a b => a.1 ≤ b.1

/-- A merge keeps both lists as they are: what picks from one of them only does not see the
other. -/
theorem filterMap_merge {α β : Type} (le : α → α → Bool) (f : α → Option β) (xs ys : List α) :
    ((∀ y ∈ ys, f y = none) → (xs.merge ys le).filterMap f = xs.filterMap f)
      ∧ ((∀ x ∈ xs, f x = none) → (xs.merge ys le).filterMap f = ys.filterMap f) := by
  induction xs generalizing ys with
  | nil =>
      rw [List.nil_merge]
      exact ⟨fun h => List.filterMap_eq_nil_iff.mpr h, fun _ => rfl⟩
  | cons x xs ihx =>
      induction ys with
      | nil =>
          rw [List.merge_right]
          exact ⟨fun _ => rfl, fun h => List.filterMap_eq_nil_iff.mpr h⟩
      | cons y ys ihy =>
          rw [List.cons_merge_cons]
          split
          · rw [List.filterMap_cons, List.filterMap_cons]
            refine ⟨fun h => by rw [(ihx (y :: ys)).1 h], ?_⟩
            intro h
            rw [h x List.mem_cons_self]
            exact (ihx (y :: ys)).2 fun x' hx' => h x' (List.mem_cons_of_mem _ hx')
          · rw [List.filterMap_cons]
            refine ⟨?_, fun h => by rw [ihy.2 h, List.filterMap_cons]⟩
            intro h
            rw [h y List.mem_cons_self]
            exact ihy.1 fun y' hy' => h y' (List.mem_cons_of_mem _ hy')

theorem sorted_pollsFrom (interval close first : Nat) :
    (pollsFrom interval close first).Pairwise fun a b => a.1 ≤ b.1 := by
  rw [pollsFrom, List.pairwise_map]
  exact List.pairwise_le_range'.imp fun h => Nat.mul_le_mul_right _ h

theorem timeline_arranged (interval close : Nat) {lines : List (Nat × String)}
    (hlines : lines.Pairwise fun a b => a.1 ≤ b.1) :
    Timeline interval close 0 lines (arranged interval close lines) where
  sorted := by
    have hmerged := @List.pairwise_merge (Nat × Arrival) (fun a b => a.1 ≤ b.1)
      (fun a b c hab hbc => by simp only [decide_eq_true_eq] at *; omega)
      (fun a b => by simp only [Bool.or_eq_true, decide_eq_true_eq]; omega)
      ((pollsFrom interval close 0).map fun poll => (poll.1, .poll poll.2))
      (lines.map fun line => (line.1, .line line.2))
      (by simpa [List.pairwise_map] using sorted_pollsFrom interval close 0)
      (by simpa [List.pairwise_map] using hlines)
    simpa [arranged] using hmerged
  polls := by
    have hlines : ∀ y ∈ lines.map fun line => (line.1, Arrival.line line.2), pollOf? y = none := by
      intro y hy
      obtain ⟨line, _, rfl⟩ := List.mem_map.mp hy
      rfl
    rw [arranged, (filterMap_merge _ pollOf? _ _).1 hlines]
    simp [List.filterMap_map, Function.comp_def, pollOf?]
  lines := by
    have hpolls : ∀ x ∈ (pollsFrom interval close 0).map fun poll => (poll.1, Arrival.poll poll.2),
        lineOf? x = none := by
      intro x hx
      obtain ⟨poll, _, rfl⟩ := List.mem_map.mp hx
      rfl
    rw [arranged, (filterMap_merge _ lineOf? _ _).2 hpolls]
    simp [List.filterMap_map, Function.comp_def, lineOf?]

/-! ## Runs -/

/-- Lines without an action do not reach a running view. -/
theorem actionsAt_filter (lines : List (Nat × String)) :
    actionsAt (lines.filter fun line => (Action.ofLine? line.2).isSome) = actionsAt lines := by
  induction lines with
  | nil => rfl
  | cons line lines ih =>
      cases haction : Action.ofLine? line.2 with
      | none => simpa [actionsAt, haction] using ih
      | some action => simpa [actionsAt, haction] using ih

/--
**A run is the sequence of its events.**

Let lines be entered in the order of time until the close, none of them at the time of a poll. Then
the polls until the close and the lines have an order of time, and whichever is taken, the run is
that of going through it: the first frame is drawn, then each poll is a tick at its time, each line
with an action is applied, with a redraw if it changed the session, and the first error, the first
line that quits or else the close is the end. The two agree in the frames, the attempts to save and
the results, each at its time, in what becomes of the surroundings, and in how and when they end.
Every poll that is made was due by the end, and lines without an action make no difference.
-/
theorem run_eq_followed (out : Outlet σ) (v : View) (s : σ) (reading : Nat → Option Reading)
    {lines : List (Nat × String)} (close : Nat) (hpos : 0 < v.options.interval)
    (hsorted : lines.Pairwise fun a b => a.1 ≤ b.1)
    (hapart : ∀ line ∈ lines, ¬ v.options.interval ∣ line.1) :
    (∃ arrivals, Timeline v.options.interval close 0 (lines.filter (·.1 ≤ close)) arrivals)
      ∧ (∀ arrivals,
          Timeline v.options.interval close 0 (lines.filter (·.1 ≤ close)) arrivals →
          run out (entered reading lines close) v s = followed out reading close arrivals v s)
      ∧ (∀ k < (run out (entered reading lines close) v s).polls,
          k * v.options.interval ≤ (run out (entered reading lines close) v s).time)
      ∧ run out (entered reading (lines.filter fun line => (Action.ofLine? line.2).isSome) close) v s
        = run out (entered reading lines close) v s := by
  have hsorted' : (lines.filter (·.1 ≤ close)).Pairwise fun a b => a.1 ≤ b.1 :=
    hsorted.sublist List.filter_sublist
  have hclose' : ∀ line ∈ lines.filter (·.1 ≤ close), line.1 ≤ close := fun line h =>
    of_decide_eq_true (List.mem_filter.mp h).2
  have hapart' : ∀ line ∈ lines.filter (·.1 ≤ close), ¬ v.options.interval ∣ line.1 :=
    fun line h => hapart line (List.mem_filter.mp h).1
  have hrun : ∀ arrivals,
      Timeline v.options.interval close 0 (lines.filter (·.1 ≤ close)) arrivals →
      run out (entered reading lines close) v s = followed out reading close arrivals v s := by
    intro arrivals htimeline
    have hopt : (v.refresh out s).1.options.interval = v.options.interval :=
      congrArg Options.interval (performed_options (perform_cases out v s .refresh))
    exact unlessFailed_congr (advance_eq_follow out (entered reading lines close) hpos arrivals
      hopt htimeline hclose' hapart')
  have hexists := timeline_arranged v.options.interval close hsorted'
  refine ⟨⟨_, hexists⟩, hrun, ?_, ?_⟩
  · rw [hrun _ hexists, followed, unlessFailed]
    split
    · intro k hk
      exact absurd hk (Nat.not_lt_zero k)
    · refine polls_follow out reading hpos _ hexists ?_
      intro k hk
      exact absurd hk (Nat.not_lt_zero k)
  · rw [entered, List.filter_filter, List.filter_congr fun _ _ => Bool.and_comm _ _,
      ← List.filter_filter, actionsAt_filter]
    rfl

/-- A line that passes a step, one without an action, one that quits and one that comes too late. -/
def someLines : List (Nat × String) := [(75, " Skip "), (80, "jump"), (130, "q"), (140, "d")]

/-- A device whose button is pressed at the second poll only. -/
def pressedOnce (number : Nat) : Option Reading :=
  some (buttonReading ⟨"Pad", 1⟩ (number == 1))

/-- The run polls three times and ends with the line that quits, after one step was answered and
one was passed. -/
theorem run_of_someLines :
    0 < (fresh standardSteps .standard).options.interval
      ∧ someLines.Pairwise (fun a b => a.1 ≤ b.1)
      ∧ (∀ line ∈ someLines, ¬ (fresh standardSteps .standard).options.interval ∣ line.1)
      ∧ run plainOutlet (entered pressedOnce someLines 180) (fresh standardSteps .standard) ()
        = followed plainOutlet pressedOnce 180
          [(0, .poll 0), (50, .poll 1), (75, .line " Skip "), (80, .line "jump"), (100, .poll 2),
            (130, .line "q"), (140, .line "d"), (150, .poll 3)] (fresh standardSteps .standard) ()
      ∧ (run plainOutlet (entered pressedOnce someLines 180)
          (fresh standardSteps .standard) ()).polls = 3
      ∧ (run plainOutlet (entered pressedOnce someLines 180)
          (fresh standardSteps .standard) ()).view.session.current = 2 := by
  have hpos : 0 < (fresh standardSteps .standard).options.interval := by decide
  have hsorted : someLines.Pairwise fun a b => a.1 ≤ b.1 := by decide
  have hapart : ∀ line ∈ someLines,
      ¬ (fresh standardSteps .standard).options.interval ∣ line.1 := by decide
  obtain ⟨_, hrun, _⟩ := run_eq_followed plainOutlet (fresh standardSteps .standard) ()
    pressedOnce 180 hpos hsorted hapart
  have heq := hrun [(0, .poll 0), (50, .poll 1), (75, .line " Skip "), (80, .line "jump"),
    (100, .poll 2), (130, .line "q"), (140, .line "d"), (150, .poll 3)] ⟨by decide, rfl, rfl⟩
  refine ⟨hpos, hsorted, hapart, heq, ?_, ?_⟩
  · rw [heq]
    decide
  · rw [heq]
    decide

end PadMapping.Proofs
