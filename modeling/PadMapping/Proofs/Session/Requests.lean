import PadMapping.Proofs.Session

/-!
# Sessions that requests arrive at

Whoever owns a session can make requests to it in any order before a view takes it over: pass a
step, record a control, finish, take the stale mark away. A request that the session refuses
leaves it as it was. Two things hold of every session that can be arrived at in this way: its steps
are those it was started with, and it is not past its end.
-/

namespace PadMapping.Proofs

/-- What can be asked of a session. -/
inductive Request where
  | skip
  | reset
  | back
  | released
  | finish
  | record (control : Control)
  | takeStale
deriving DecidableEq, Repr

/-- The session after a request. A fault comes without a session, so the one from before goes on
after a refusal: whether a request is refused is decided before anything is changed, and what is
refused has changed nothing. -/
def Request.carryOut (s : Session) : Request → Session
  | .skip => s.skip.toOption.getD s
  | .reset => s.reset
  | .back => s.back
  | .released => s.released
  | .finish => s.finish
  | .record control => (s.record control).toOption.getD s
  | .takeStale => s.takeStale.2

/-- The sessions that requests arrive at from the first of the given steps. -/
inductive Attained (steps : List Step) : Session → Prop where
  | start : Attained steps (.start steps)
  | tail {s : Session} (r : Request) : Attained steps s → Attained steps (r.carryOut s)

/-- The session that a list of requests makes. -/
def sessionAfter (steps : List Step) (requests : List Request) : Session :=
  requests.foldl Request.carryOut (.start steps)

theorem attained_foldl {steps : List Step} (requests : List Request) :
    ∀ {s : Session}, Attained steps s → Attained steps (requests.foldl Request.carryOut s) := by
  induction requests with
  | nil => intro s hs; exact hs
  | cons r requests ih => intro s hs; exact ih (.tail r hs)

theorem attained_sessionAfter (steps : List Step) (requests : List Request) :
    Attained steps (sessionAfter steps requests) :=
  attained_foldl requests .start

/-! ## What one request does -/

theorem carryOut_of_done {s : Session} (h : s.isDone = true) :
    Request.skip.carryOut s = s ∧ ∀ control, (Request.record control).carryOut s = s := by
  constructor
  · rw [Request.carryOut, Session.skip, if_pos h]
    rfl
  · intro control
    rw [Request.carryOut, Session.record, if_pos h]
    rfl

theorem carryOut_of_open {s : Session} (h : s.isDone = false) :
    Request.skip.carryOut s = skipped s
      ∧ ∀ control, (Request.record control).carryOut s = recorded s control := by
  constructor
  · rw [Request.carryOut, skip_of_open h]
    rfl
  · intro control
    rw [Request.carryOut, record_of_open h]
    rfl

theorem stepsOf_carryOut (s : Session) (r : Request) : stepsOf (r.carryOut s) = stepsOf s := by
  cases r with
  | back | released | finish | takeStale => rfl
  | reset => exact stepsOf_reset s
  | skip =>
      cases hd : s.isDone with
      | true => rw [(carryOut_of_done hd).1]
      | false => rw [(carryOut_of_open hd).1]; rfl
  | record control =>
      cases hd : s.isDone with
      | true => rw [(carryOut_of_done hd).2]
      | false => rw [(carryOut_of_open hd).2]; exact stepsOf_recorded s control

/-- No request leads past the end. -/
theorem current_le_carryOut {s : Session} (h : s.current ≤ s.size) (r : Request) :
    (r.carryOut s).current ≤ (r.carryOut s).size := by
  have hsize : (r.carryOut s).size = s.size := by
    rw [size_eq, size_eq, stepsOf_carryOut]
  rw [hsize]
  cases r with
  | released | takeStale => exact h
  | reset => exact Nat.zero_le _
  | finish => exact Nat.le_refl _
  | back => exact Nat.le_trans (Nat.sub_le _ _) h
  | skip =>
      cases hd : s.isDone with
      | true => rw [(carryOut_of_done hd).1]; exact h
      | false => rw [(carryOut_of_open hd).1]; exact isDone_eq_false_iff.mp hd
  | record control =>
      cases hd : s.isDone with
      | true => rw [(carryOut_of_done hd).2]; exact h
      | false => rw [(carryOut_of_open hd).2]; exact isDone_eq_false_iff.mp hd

/-! ## All requests -/

theorem stepsOf_attained {steps : List Step} {s : Session} (h : Attained steps s) :
    stepsOf s = steps := by
  induction h with
  | start => exact stepsOf_start steps
  | tail r _ ih => rw [stepsOf_carryOut, ih]

theorem current_le_attained {steps : List Step} {s : Session} (h : Attained steps s) :
    s.current ≤ s.size := by
  induction h with
  | start => exact Nat.zero_le _
  | tail r _ ih => exact current_le_carryOut ih r

end PadMapping.Proofs
