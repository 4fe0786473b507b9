import PadMapping.Proofs.Device.Polls

/-!
# When a source looks for its device

A source without a connection looks for its device again and again, but not too often. It remembers
one time for that, which two things set: an attempt to connect, whatever comes of it, and the loss
of a connection. The next attempt is due when the rescan interval has passed since that time.

One equation carries this module (`lastScan_after`): a poll that does one of the two things leaves
its own time behind, and any other poll leaves the time as it was. So what is remembered is the time
of the latest attempt or loss, and no earlier one can matter as long as the clock does not go back.
-/

namespace PadMapping.Proofs

namespace Poll

variable (p : Poll)

/-- The poll tries to connect to a device. -/
def Attempts : Prop := p.before.wantsToConnect p.now = true

/-- The poll reads through a connection, which fails, and gives the connection up. -/
def Loses : Prop := p.connection? ≠ none ∧ p.reading = none

/-- The poll does one of the two things after which the source has to wait. -/
def StartsWaiting : Prop := p.Attempts ∨ p.Loses

theorem attempts_iff :
    p.Attempts ↔ p.before.connection = none ∧ p.before.isScanDue p.now = true := by
  rw [Attempts, Gamepad.wantsToConnect, Bool.and_eq_true, Option.isNone_iff_eq_none]

/-- An attempt connects to what it finds, and without an attempt there is no new connection. -/
theorem opened?_eq_some_iff_attempts (c : Connection) :
    p.opened? = some c ↔ p.Attempts ∧ ∃ path number d,
      p.before.candidate? p.world = some (path, number, d)
        ∧ Connection.connect? path number d (p.before.session + 1) = some c := by
  constructor
  · intro h
    obtain ⟨_, hfound⟩ := connects_of_opened? h
    by_cases hattempts : p.Attempts
    · exact ⟨hattempts, hfound⟩
    · rw [Attempts] at hattempts
      rw [opened?, if_neg hattempts] at h
      exact absurd h (by simp)
  · intro hx
    obtain ⟨hattempts, path, number, d, hfound, hconnect⟩ := hx
    rw [Attempts] at hattempts
    rw [opened?, if_pos hattempts, connection?, attached, if_pos hattempts, connect_eq, hfound,
      Option.bind_some, hconnect]

variable {p}

theorem attached_of_attempts (h : p.Attempts) :
    p.attached.lastScan = some p.now ∧ p.attached.rescanInterval = p.before.rescanInterval := by
  rw [attached, if_pos (show p.before.wantsToConnect p.now = true from h), connect_eq]
  split <;> exact ⟨rfl, rfl⟩

theorem attached_of_not_attempts (h : ¬ p.Attempts) : p.attached = p.before := by
  rw [attached, if_neg (show ¬ p.before.wantsToConnect p.now = true from h)]

theorem poll_of_attempts (h : p.Attempts) :
    p.before.poll p.world p.now = (p.before.connect p.world p.now).sample p.world p.now := by
  rw [Gamepad.poll, if_pos (show p.before.wantsToConnect p.now = true from h)]

theorem poll_of_not_attempts (h : ¬ p.Attempts) :
    p.before.poll p.world p.now = p.before.sample p.world p.now := by
  rw [Gamepad.poll, if_neg (show ¬ p.before.wantsToConnect p.now = true from h)]

theorem rescanInterval_after (p : Poll) : p.after.rescanInterval = p.before.rescanInterval := by
  have hattached : p.attached.rescanInterval = p.before.rescanInterval := by
    by_cases h : p.Attempts
    · exact (attached_of_attempts h).2
    · rw [attached_of_not_attempts h]
  cases p.sample_cases with
  | idle _ _ hafter | read _ _ _ hafter | lost _ _ _ hafter => rw [hafter]; exact hattached

/-- **What a poll leaves behind**: its own time if the source has to wait now. -/
theorem lastScan_after (p : Poll) :
    (p.StartsWaiting ∧ p.after.lastScan = some p.now)
      ∨ (¬ p.StartsWaiting ∧ p.after.lastScan = p.before.lastScan) := by
  have hattached : ¬ p.Loses → p.after = p.attached →
      (p.StartsWaiting ∧ p.after.lastScan = some p.now)
        ∨ (¬ p.StartsWaiting ∧ p.after.lastScan = p.before.lastScan) := by
    intro hloses hafter
    rw [hafter]
    by_cases hattempts : p.Attempts
    · exact Or.inl ⟨Or.inl hattempts, (attached_of_attempts hattempts).1⟩
    · refine Or.inr ⟨fun h => h.elim hattempts hloses, ?_⟩
      rw [attached_of_not_attempts hattempts]
  cases p.sample_cases with
  | idle hnone _ hafter => exact hattached (fun h => h.1 hnone) hafter
  | read _ _ hreading hafter =>
      exact hattached (fun h => absurd (hreading.symm.trans h.2) (by simp)) hafter
  | lost hc _ hreading hafter =>
      exact Or.inl ⟨Or.inr ⟨by rw [hc]; simp, hreading⟩, by rw [hafter]⟩

/-- How attempts, losses and new connections show in what a poll does to the source. -/
structure Shows (p : Poll) : Prop where
  /-- An attempt is to connect and then to read. -/
  attempt : p.Attempts →
    p.before.poll p.world p.now = (p.before.connect p.world p.now).sample p.world p.now
  /-- Without an attempt the source only reads. -/
  noAttempt : ¬ p.Attempts → p.before.poll p.world p.now = p.before.sample p.world p.now
  /-- The time of an attempt or a loss is remembered, and no other time. -/
  lastScan : (p.StartsWaiting ∧ p.after.lastScan = some p.now)
    ∨ (¬ p.StartsWaiting ∧ p.after.lastScan = p.before.lastScan)
  /-- A new connection takes a session number. -/
  session : p.after.session = p.before.session + 1 ↔ ∃ c, p.opened? = some c
  /-- A new connection is read through at once, and kept if that works. -/
  connection : ∀ c, p.opened? = some c →
    p.reading = c.read? p.world ∧ p.after.connection = p.reading.map fun _ => c

theorem shows (p : Poll) : p.Shows where
  attempt := poll_of_attempts
  noAttempt := poll_of_not_attempts
  lastScan := p.lastScan_after
  session := p.session_after_eq_succ_iff
  connection := fun _ => after_of_opened?

theorem connection_after_eq_none_iff (p : Poll) : p.after.connection = none ↔ p.reading = none := by
  refine ⟨fun h => ?_, connection_of_no_reading⟩
  cases hreading : p.reading with
  | none => rfl
  | some r =>
      obtain ⟨c, _, _, hc⟩ := connection_of_reading hreading
      exact absurd (h.symm.trans hc) (by simp)

end Poll

/-! ## Runs -/

/-- What a source remembers of the polls that it has had. -/
structure Remembers (rescanInterval : Nat) (past : List Poll) (g : Gamepad) : Prop where
  interval : g.rescanInterval = rescanInterval
  /-- A time that is remembered is that of a poll that made the source wait. -/
  source : ∀ time, g.lastScan = some time → ∃ m ∈ past, m.StartsWaiting ∧ m.now = time
  /-- No poll that made the source wait is later. -/
  latest : ∀ m ∈ past, m.StartsWaiting → ∃ time, g.lastScan = some time ∧ m.now ≤ time

theorem remembers_start (path : Option String) (rescanInterval : Nat) :
    Remembers rescanInterval [] (.start path rescanInterval) where
  interval := rfl
  source := fun _ h => absurd h (by simp [Gamepad.start])
  latest := fun _ h => absurd h (by simp)

/-- The polls come in the order of their times. -/
def InOrder (ps : List Poll) : Prop := ps.Pairwise fun p q => p.now ≤ q.now

section

variable {rescanInterval : Nat} {world : InputDirectory} {g : Gamepad} {front back : List Poll}
  {p : Poll}

theorem remembers_after {past : List Poll} (h : Remembers rescanInterval past p.before)
    (hle : ∀ m ∈ past, m.now ≤ p.now) : Remembers rescanInterval (past ++ [p]) p.after := by
  have hinterval := p.rescanInterval_after.trans h.interval
  rcases p.lastScan_after with ⟨hwaits, hscan⟩ | ⟨hwaits, hscan⟩
  · refine ⟨hinterval, ?_, ?_⟩
    · intro time htime
      rw [hscan] at htime
      injection htime with htime
      exact ⟨p, by simp, hwaits, htime⟩
    · intro m hm _
      refine ⟨p.now, hscan, ?_⟩
      rcases List.mem_append.mp hm with hm | hm
      · exact hle m hm
      · exact Nat.le_of_eq (congrArg Poll.now (List.mem_singleton.mp hm))
  · refine ⟨hinterval, ?_, ?_⟩
    · intro time htime
      rw [hscan] at htime
      obtain ⟨m, hm, hmwaits, hnow⟩ := h.source time htime
      exact ⟨m, List.mem_append_left _ hm, hmwaits, hnow⟩
    · intro m hm hmwaits
      rcases List.mem_append.mp hm with hm | hm
      · obtain ⟨time, htime, hnow⟩ := h.latest m hm hmwaits
        exact ⟨time, hscan.trans htime, hnow⟩
      · rw [List.mem_singleton.mp hm] at hmwaits
        exact absurd hmwaits hwaits

theorem remembers_run : ∀ {front past : List Poll} {world : InputDirectory} {g : Gamepad},
    Successive world g (front ++ p :: back) → Remembers rescanInterval past g →
      InOrder (past ++ front) → Remembers rescanInterval (past ++ front) p.before := by
  -- induction on the polls before `p`, each of which joins those that are past
  intro front
  induction front with
  | nil =>
      intro past world g h hpast _
      cases h with
      | cons => rwa [List.append_nil]
  | cons m front ih =>
      intro past world g h hpast horder
      rw [List.append_cons] at horder ⊢
      have hle : ∀ x ∈ past, x.now ≤ m.now := by
        intro x hx
        have hfront := (List.pairwise_append.mp horder).1
        exact (List.pairwise_append.mp hfront).2.2 x hx m List.mem_cons_self
      cases h with
      | cons _ hrest => exact ih hrest (remembers_after hpast hle) horder

/-- **When a poll attempts to connect.** -/
theorem attempts_iff_waited (h : Remembers rescanInterval front p.before)
    (hle : ∀ m ∈ front, m.now ≤ p.now) :
    p.Attempts ↔ p.before.connection = none
      ∧ ∀ m ∈ front, m.StartsWaiting → m.now + rescanInterval ≤ p.now := by
  rw [p.attempts_iff, and_congr_right_iff]
  intro _
  rw [Gamepad.isScanDue, h.interval]
  cases hscan : p.before.lastScan with
  | none =>
      refine iff_of_true rfl fun m hm hwaits => ?_
      obtain ⟨time, htime, _⟩ := h.latest m hm hwaits
      exact absurd (hscan.symm.trans htime) (by simp)
  | some time =>
      rw [decide_eq_true_iff]
      constructor
      · intro hdue m hm hwaits
        obtain ⟨time', htime, hnow⟩ := h.latest m hm hwaits
        rw [hscan] at htime
        injection htime with htime
        have hmle := hle m hm
        omega
      · intro hall
        obtain ⟨m, hm, hwaits, hnow⟩ := h.source time hscan
        have hdue := hall m hm hwaits
        omega

theorem before_eq_of_first (h : Successive world g (p :: back)) : p.before = g := by
  cases h with
  | cons => rfl

theorem before_eq_after {m : Poll} (h : Successive world g (front ++ m :: p :: back))
    (hsettled : Settled world g) : p.before = m.after :=
  before_eq_of_first (successive_append h hsettled).run

end

/--
**Attempts to connect are rare enough, and none is forgotten.**

Whatever happens among the devices, if the clock does not go back between polls:

- The first poll attempts to connect.
- After an attempt, and after a poll that loses its connection, there is no other attempt before the
  rescan interval has passed. A poll can do both.
- A poll that has a connection makes no attempt. It has one exactly if the poll before gave a
  reading.
- A poll without a connection makes an attempt if the rescan interval has passed since all earlier
  attempts and losses.
- An attempt connects to the device that it finds if the axes can be read, and nothing else
  connects.
- Attempts, losses and new connections show in what the poll does to the source.
-/
theorem attempts_of_polls {path : Option String} {rescanInterval : Nat} {world : InputDirectory}
    {events : List SourceEvent} {ps : List Poll}
    (hps : polls events world (.start path rescanInterval) = ps) (horder : InOrder ps) :
    (∀ p back, ps = p :: back → p.Attempts)
      ∧ (∀ front p mid q back, ps = front ++ p :: (mid ++ q :: back) → p.Attempts ∨ p.Loses →
        q.Attempts → p.now + rescanInterval ≤ q.now)
      ∧ (∀ p ∈ ps, p.before.connection ≠ none → ¬ p.Attempts)
      ∧ (∀ front m p back, ps = front ++ m :: p :: back →
        (p.before.connection ≠ none ↔ m.reading ≠ none))
      ∧ (∀ front p back, ps = front ++ p :: back → p.before.connection = none →
        (∀ m ∈ front, m.Attempts ∨ m.Loses → m.now + rescanInterval ≤ p.now) → p.Attempts)
      ∧ (∀ p ∈ ps, ∀ c, p.opened? = some c ↔ p.Attempts ∧ ∃ path number d,
        p.before.candidate? p.world = some (path, number, d)
          ∧ Connection.connect? path number d (p.before.session + 1) = some c)
      ∧ ∀ p ∈ ps, p.Shows := by
  have hrun : Successive world (.start path rescanInterval) ps :=
    hps ▸ successive_polls events world _
  have hsettled : Settled world (.start path rescanInterval) := settled_of_none rfl
  have hiff : ∀ front p back, ps = front ++ p :: back →
      (p.Attempts ↔ p.before.connection = none
        ∧ ∀ m ∈ front, m.StartsWaiting → m.now + rescanInterval ≤ p.now) := by
    intro front p back heq
    rw [heq] at hrun horder
    obtain ⟨hfront, _, hcross⟩ := List.pairwise_append.mp horder
    exact attempts_iff_waited (remembers_run hrun (remembers_start path rescanInterval) hfront)
      fun m hm => hcross m hm p List.mem_cons_self
  refine ⟨?_, ?_, ?_, ?_, ?_, ?_, fun p _ => p.shows⟩
  · intro p back heq
    have hstart := before_eq_of_first (heq ▸ hrun)
    exact (hiff [] p back heq).mpr ⟨by rw [hstart]; rfl, by simp⟩
  · intro front p mid q back heq hwaits hattempts
    rw [List.append_cons, ← List.append_assoc] at heq
    exact ((hiff _ q back heq).mp hattempts).2 p (by simp) hwaits
  · intro p _ hconnected hattempts
    exact hconnected (p.attempts_iff.mp hattempts).1
  · intro front m p back heq
    rw [before_eq_after (heq ▸ hrun) hsettled, ne_eq, m.connection_after_eq_none_iff]
  · intro front p back heq hnone hall
    exact (hiff front p back heq).mpr ⟨hnone, hall⟩
  · exact fun p _ c => p.opened?_eq_some_iff_attempts c

/-- A gamepad that can be connected to but refuses to tell which keys are held. -/
def silentPad : InputDevice :=
  ⟨[], 0x054c, 0x0ce6, [southButton], [], [], ⟨false, false, true⟩⟩

/-- The gamepad is plugged in, and polled three times. -/
def polledSilently : List SourceEvent :=
  [.change (.plug "event0" silentPad), .poll 0, .poll 999, .poll 1000]

/-- The first poll connects and loses the connection at once. The second one comes too early for
another attempt and leaves nothing behind, and the third one attempts again. -/
theorem attempts_of_silent_pad : ∃ p m q,
    polls polledSilently (.empty .directory) (.start (some "/dev/input/event0") 1000) = [p, m, q]
      ∧ InOrder [p, m, q] ∧ p.opened?.isSome = true ∧ p.Loses ∧ ¬ m.Attempts ∧ q.Attempts
      ∧ p.after.session = 1 ∧ p.after.lastScan = some 0 ∧ m.after.lastScan = some 0 := by
  obtain ⟨p, m, q, hpolls, horder, hopened, hloses, hidle, hnone, hm, hq, hp, hkept⟩ : ∃ p m q,
      polls polledSilently (.empty .directory) (.start (some "/dev/input/event0") 1000)
          = [p, m, q]
        ∧ InOrder [p, m, q] ∧ p.opened?.isSome = true ∧ p.Loses ∧ m.connection? = none
        ∧ q.before.connection = none ∧ (p.now = 0 ∧ m.now = 999) ∧ q.now = 1000
        ∧ p.before.session = 0 ∧ m.before.lastScan = p.after.lastScan := by
    refine ⟨_, _, _, rfl, ?_, rfl, ⟨by decide, rfl⟩, rfl, rfl, ⟨rfl, rfl⟩, rfl, rfl, rfl⟩
    simp [InOrder]
  obtain ⟨_, hapart, _, _, hdue, _, hshows⟩ := attempts_of_polls hpolls horder
  have hearly : ¬ m.Attempts := by
    intro hattempts
    have hle := hapart [] p [] m [q] rfl (Or.inr hloses) hattempts
    omega
  have hrests : ¬ m.StartsWaiting := fun h => h.elim hearly fun h => h.1 hidle
  have hlate : q.Attempts := by
    refine hdue [p, m] q [] rfl hnone ?_
    intro x hx hwaits
    rcases List.mem_cons.mp hx with rfl | hx
    · omega
    · rw [List.mem_singleton.mp hx] at hwaits
      exact absurd hwaits hrests
  have hsession : p.after.session = 1 := by
    have hnext := (hshows p (by simp)).session.mpr (Option.isSome_iff_exists.mp hopened)
    rw [hnext, hp]
  have hscan : p.after.lastScan = some 0 := by
    rcases (hshows p (by simp)).lastScan with ⟨_, h⟩ | ⟨h, _⟩
    · rw [h, hm.1]
    · exact absurd (Or.inr hloses) h
  have hscan' : m.after.lastScan = some 0 := by
    rcases (hshows m (by simp)).lastScan with ⟨h, _⟩ | ⟨_, h⟩
    · exact absurd h hrests
    · rw [h, hkept, hscan]
  exact ⟨p, m, q, hpolls, horder, hopened, hloses, hearly, hlate, hsession, hscan, hscan'⟩

end PadMapping.Proofs
