import PadMapping.Proofs.Session.Requests

/-!
# Sessions as walks

What requests do to a session can be said without its list of assignments. A walk is a place
among the steps, a result for every number of a step, and the two marks of a session. What a request
does to a walk is given field by field: `leadsTo` says where it goes, `leaves` which results there
are then, `waitsAfter` and `marks` what becomes of the marks.

Nothing of a session is lost in this: with its steps, which no request touches, its walk determines
it (`eq_of_walkOf_eq`). `walkOf_carryOut` shows that a session goes the way of its walk in one
request, and `walk_of_requests` that it does so in all of them.
-/

namespace PadMapping.Proofs

/-- A place among the steps, a result for each of them, and the marks of a session. -/
structure Walk where
  current : Nat
  result : Nat → Option Control
  waiting : Bool
  stale : Bool

namespace Request

/-- Whether a request is about the current step, so that there has to be one. -/
def needsStep : Request → Bool
  | .skip | .record _ => true
  | _ => false

/-- The place to which a request leads from the place `current`, with so many steps. -/
def leadsTo (size current : Nat) : Request → Nat
  | .skip | .record _ => current + 1
  | .back => current - 1
  | .finish => size
  | .reset => 0
  | .released | .takeStale => current

/-- The results that a request leaves. -/
def leaves (current : Nat) (result : Nat → Option Control) : Request → Nat → Option Control
  | .record control => fun i => if i = current then some control else result i
  | .reset => fun _ => none
  | _ => result

/-- Whether all controls have to be released after a request. -/
def waitsAfter (waiting : Bool) : Request → Bool
  | .record _ | .reset => true
  | .released => false
  | _ => waiting

/-- Whether a request asks for the session to be drawn again. -/
def marks : Request → Bool
  | .takeStale => false
  | _ => true

/-- What the one who makes a request is told. -/
def outcome (s : Session) : Request → Except Session.Fault Unit
  | .skip => s.skip.map fun _ => ()
  | .record control => (s.record control).map fun _ => ()
  | _ => .ok ()

end Request

namespace Walk

/-- The walk at the first step. -/
def start : Walk := ⟨0, fun _ => none, true, true⟩

/-- The walk after a request that is not refused. -/
def onward (size : Nat) (w : Walk) (r : Request) : Walk where
  current := r.leadsTo size w.current
  result := r.leaves w.current w.result
  waiting := r.waitsAfter w.waiting
  stale := r.marks

/-- The walk after a request. At the end, one that needs a step is refused and changes nothing. -/
def after (size : Nat) (w : Walk) (r : Request) : Walk :=
  if r.needsStep = true ∧ w.current = size then w else w.onward size r

theorem after_of_end {size : Nat} {w : Walk} {r : Request} (hneeds : r.needsStep = true)
    (hend : w.current = size) : w.after size r = w := by
  rw [after, if_pos ⟨hneeds, hend⟩]

theorem after_of_inside {size : Nat} {w : Walk} {r : Request} (hinside : w.current ≠ size) :
    w.after size r = w.onward size r := by
  rw [after, if_neg fun hx => hinside hx.2]

end Walk

/-- The walk of a session. -/
def walkOf (s : Session) : Walk := ⟨s.current, resultAt s, s.waiting, s.stale⟩

theorem walkOf_start (steps : List Step) : walkOf (.start steps) = .start := by
  have hresult : resultAt (.start steps) = fun _ => none := funext (resultAt_start steps)
  rw [walkOf, hresult]
  rfl

/-- **A session is its steps and its walk.** -/
theorem eq_of_walkOf_eq {s s' : Session} (hsteps : stepsOf s = stepsOf s')
    (hwalk : walkOf s = walkOf s') : s = s' := by
  obtain ⟨rows, current, stale, waiting⟩ := s
  obtain ⟨rows', current', stale', waiting'⟩ := s'
  simp only [walkOf, Walk.mk.injEq] at hwalk
  obtain ⟨rfl, hresult, rfl, rfl⟩ := hwalk
  have hrows : rows = rows' := by
    apply List.ext_getElem?
    intro i
    have hstep : rows[i]?.map Assignment.step = rows'[i]?.map Assignment.step := by
      simpa [stepsOf] using congrArg (·[i]?) hsteps
    have hcontrol : rows[i]?.bind Assignment.control = rows'[i]?.bind Assignment.control :=
      congrFun hresult i
    cases hrow : rows[i]? with
    | none =>
        rw [hrow] at hstep
        exact (Option.map_eq_none_iff.mp hstep.symm).symm
    | some row =>
        cases hrow' : rows'[i]? with
        | none => rw [hrow, hrow'] at hstep; exact absurd hstep (by simp)
        | some row' =>
            rw [hrow, hrow'] at hstep hcontrol
            injection hstep with hstep
            obtain ⟨step, control⟩ := row
            obtain ⟨step', control'⟩ := row'
            exact congrArg some (congr (congrArg Assignment.mk hstep) hcontrol)
  rw [hrows]

/-! ## One request -/

theorem isDone_iff_of_le {s : Session} (h : s.current ≤ s.size) :
    s.isDone = true ↔ s.current = s.size := by
  rw [Session.isDone, decide_eq_true_iff]
  omega

/-- A request is refused for one reason only. -/
theorem outcome_eq_error_iff {s : Session} (h : s.current ≤ s.size) (r : Request)
    (fault : Session.Fault) :
    r.outcome s = .error fault
      ↔ fault = .finished ∧ r.needsStep = true ∧ s.current = s.size := by
  cases hd : s.isDone with
  | true =>
      have hend := (isDone_iff_of_le h).mp hd
      cases r <;>
        simp [Request.outcome, Request.needsStep, Session.skip, Session.record, hd, hend,
          Except.map, eq_comm]
  | false =>
      have hlt := isDone_eq_false_iff.mp hd
      have hopen : s.current ≠ s.size := by omega
      cases r <;>
        simp [Request.outcome, Request.needsStep, Session.skip, Session.record, hd, hopen,
          Except.map]

/-- **A session goes the way of its walk.** -/
theorem walkOf_carryOut {s : Session} (h : s.current ≤ s.size) (r : Request) :
    walkOf (r.carryOut s) = (walkOf s).after s.size r := by
  cases r with
  | back | released | finish | takeStale => rfl
  | reset =>
      have hresult : resultAt s.reset = fun _ => none := funext (resultAt_reset s)
      show walkOf s.reset = _
      rw [walkOf, hresult]
      rfl
  | skip =>
      cases hd : s.isDone with
      | true => rw [(carryOut_of_done hd).1, Walk.after_of_end rfl ((isDone_iff_of_le h).mp hd)]
      | false =>
          rw [(carryOut_of_open hd).1,
            Walk.after_of_inside (Nat.ne_of_lt (isDone_eq_false_iff.mp hd))]
          rfl
  | record control =>
      cases hd : s.isDone with
      | true => rw [(carryOut_of_done hd).2, Walk.after_of_end rfl ((isDone_iff_of_le h).mp hd)]
      | false =>
          have hresult : resultAt (recorded s control)
              = (Request.record control).leaves s.current (resultAt s) :=
            funext (resultAt_recorded hd control)
          rw [(carryOut_of_open hd).2,
            Walk.after_of_inside (Nat.ne_of_lt (isDone_eq_false_iff.mp hd)), walkOf, hresult]
          rfl

/-- A request that is refused changes nothing. -/
theorem carryOut_of_refused {s : Session} (h : s.current ≤ s.size) {r : Request}
    (hrefused : r.outcome s ≠ .ok ()) : r.carryOut s = s := by
  cases hout : r.outcome s with
  | ok _ => exact absurd hout hrefused
  | error fault =>
      obtain ⟨_, hneeds, hend⟩ := (outcome_eq_error_iff h r fault).mp hout
      have hwalk := walkOf_carryOut h r
      rw [Walk.after_of_end hneeds hend] at hwalk
      exact eq_of_walkOf_eq (stepsOf_carryOut s r) hwalk

/-- A request that is not refused makes the walk go on. -/
theorem walkOf_of_accepted {s : Session} (h : s.current ≤ s.size) {r : Request}
    (haccepted : r.outcome s = .ok ()) : walkOf (r.carryOut s) = (walkOf s).onward s.size r := by
  rw [walkOf_carryOut h, Walk.after, if_neg]
  intro hx
  have hfault := (outcome_eq_error_iff h r .finished).mpr ⟨rfl, hx⟩
  rw [haccepted] at hfault
  exact absurd hfault (by simp)

/-- The name to ask for is missing at the end only. -/
theorem currentName_eq_error_iff {s : Session} (h : s.current ≤ s.size) (fault : Session.Fault) :
    s.currentName = .error fault ↔ fault = .finished ∧ s.current = s.size := by
  cases hd : s.isDone with
  | true =>
      have hend := (isDone_iff_of_le h).mp hd
      have hnone : s.assignments[s.current]? = none :=
        List.getElem?_eq_none_iff.mpr (Nat.le_of_eq hend.symm)
      rw [Session.currentName, hnone]
      simp [hend]
  | false =>
      have hlt := isDone_eq_false_iff.mp hd
      obtain ⟨step, _, hname⟩ := currentName_of_open hd
      simp [hname, Nat.ne_of_lt hlt]

/-! ## All requests -/

theorem walkOf_foldl {steps : List Step} (requests : List Request) :
    ∀ {s : Session}, Attained steps s →
      walkOf (requests.foldl Request.carryOut s)
        = requests.foldl (Walk.after steps.length) (walkOf s) := by
  induction requests with
  | nil => intro s _; rfl
  | cons r requests ih =>
      intro s hs
      have hstep := walkOf_carryOut (current_le_attained hs) r
      rw [size_eq, stepsOf_attained hs] at hstep
      rw [List.foldl_cons, List.foldl_cons, ih (.tail r hs), hstep]

/--
**What requests do, in any order.**

A session that any requests arrive at is somewhere among its steps or at their end, its steps are
those it was started with, and it is where its walk leads. It has a name to ask for unless it is at
the end.

A further request is refused exactly if it needs a step and the session is at the end. Then nothing
changes; this much is already in the types, as a fault carries no session that could differ from
the one before. Otherwise it changes no step, leads to the one place it leads to, touches no result
but the one it records, or all of them if it is a reset, and treats the two marks as it should.
-/
theorem walk_of_requests (steps : List Step) (requests : List Request) :
    let s := sessionAfter steps requests
    (s.current ≤ steps.length ∧ stepsOf s = steps)
      ∧ walkOf s = requests.foldl (Walk.after steps.length) .start
      ∧ (∀ fault, s.currentName = .error fault ↔ fault = .finished ∧ s.current = steps.length)
      ∧ (∀ step, steps[s.current]? = some step → s.currentName = .ok step.name)
      ∧ ∀ r : Request,
        (∀ fault, r.outcome s = .error fault
            ↔ fault = .finished ∧ r.needsStep = true ∧ s.current = steps.length)
          ∧ (r.outcome s ≠ .ok () → r.carryOut s = s)
          ∧ (r.outcome s = .ok () →
            stepsOf (r.carryOut s) = stepsOf s
              ∧ (r.carryOut s).current = r.leadsTo steps.length s.current
              ∧ (∀ i, resultAt (r.carryOut s) i = r.leaves s.current (resultAt s) i)
              ∧ (r.carryOut s).waiting = r.waitsAfter s.waiting
              ∧ (r.carryOut s).stale = r.marks) := by
  intro s
  have hs : Attained steps s := attained_sessionAfter steps requests
  have hsteps : stepsOf s = steps := stepsOf_attained hs
  have hsize : s.size = steps.length := by rw [size_eq, hsteps]
  have hle : s.current ≤ s.size := current_le_attained hs
  rw [← hsize]
  refine ⟨⟨hle, hsteps⟩, ?_, currentName_eq_error_iff hle, ?_, ?_⟩
  · rw [← walkOf_start steps, hsize]
    exact walkOf_foldl requests .start
  · intro step hstep
    have hlt : s.current < s.size := hsize ▸ (List.getElem?_eq_some_iff.mp hstep).1
    obtain ⟨step', hstep', hname⟩ := currentName_of_open (isDone_eq_false_iff.mpr hlt)
    rw [hsteps, hstep] at hstep'
    injection hstep' with hstep'
    rw [hname, hstep']
  · intro r
    refine ⟨outcome_eq_error_iff hle r, carryOut_of_refused hle, ?_⟩
    intro haccepted
    have hwalk := walkOf_of_accepted hle haccepted
    exact ⟨stepsOf_carryOut s r, congrArg Walk.current hwalk,
      fun i => congrFun (congrArg Walk.result hwalk) i, congrArg Walk.waiting hwalk,
      congrArg Walk.stale hwalk⟩

/-- Going back from the end reopens the last step with its result, and with it the requests that
were refused at the end. -/
example :
    let s := sessionAfter [⟨"Fire", .button, 0⟩] [.record (.button 3), .skip, .back]
    (s.current, s.waiting, resultAt s 0) = (0, true, some (.button 3))
      ∧ Request.skip.outcome s = .ok () :=
  ⟨rfl, rfl⟩

end PadMapping.Proofs
