import PadMapping.Proofs.Device.Polls

/-!
# Identities and connections

Whoever gets readings sees only their identities, and has to decide from them whether two readings
come from the same connection. This module shows that they are right to do so: readings have the
same identity exactly if the source was connected all the time in between, and then they were read
through one connection to one device.

The reason is that a session number is used for one connection only. A source that gives nothing
has no connection any more, and the next one takes a number that was never used.
-/

namespace PadMapping.Proofs

section

variable {world : InputDirectory} {g : Gamepad} {mid back : List Poll} {q : Poll}

/-- As long as every poll gives a reading, the connection stays. -/
theorem connection_of_readings {c : Connection} : ∀ {mid : List Poll} {world : InputDirectory}
    {g : Gamepad}, Successive world g (mid ++ q :: back) → g.connection = some c →
      (∀ m ∈ mid, m.reading ≠ none) → q.connection? = some c := by
  intro mid
  induction mid with
  | nil =>
      intro world g h hc _
      cases h with
      | cons _ _ => exact Poll.connection?_of_connected hc
  | cons m mid ih =>
      intro world g h hc hall
      cases h with
      | cons _ hrest =>
          obtain ⟨r, hr⟩ := Option.ne_none_iff_exists'.mp (hall m List.mem_cons_self)
          obtain ⟨c', hc', _, hafter⟩ := Poll.connection_of_reading hr
          have heq : c' = c :=
            Option.some.inj (hc'.symm.trans (Poll.connection?_of_connected hc))
          exact ih hrest (heq ▸ hafter) fun m' hm' => hall m' (List.mem_cons_of_mem m hm')

theorem session_of_reading {s : Reading} (hsettled : Settled q.world q.before)
    (h : q.reading = some s) : s.identity.session = q.attached.session := by
  obtain ⟨c, hc, hread, _⟩ := Poll.connection_of_reading h
  rw [(read?_eq hread).1]
  exact (settled_attached hsettled).session c hc

/-- Session numbers only grow. -/
theorem session_le_of_reading {s : Reading} (h : Successive world g (mid ++ q :: back))
    (hsettled : Settled world g) (hs : q.reading = some s) : g.session ≤ s.identity.session := by
  obtain ⟨_, hbefore, hle, _⟩ := successive_append h hsettled
  rw [session_of_reading hbefore hs, q.session_attached]
  exact Nat.le_trans hle (Nat.le_add_right ..)

/-- A source without a connection gives readings only under numbers that are new. -/
theorem session_lt_of_none {s : Reading} (hs : q.reading = some s) : ∀ {mid : List Poll}
    {world : InputDirectory} {g : Gamepad}, Successive world g (mid ++ q :: back) →
      g.connection = none → g.session < s.identity.session := by
  -- induction on the polls before the reading: the first of them that connects takes a new number
  intro mid
  induction mid with
  | nil =>
      intro world g h hnone
      cases h with
      | cons _ _ =>
          rw [session_of_reading (settled_of_none hnone) hs]
          rcases Poll.session_lt_or_idle hnone with hlt | hidle
          · exact hlt
          · rw [hidle] at hs
            exact absurd hs (by simp)
  | cons m mid ih =>
      intro world g h hnone
      cases h with
      | cons _ hrest =>
          rcases Poll.session_lt_or_idle hnone with hlt | hidle
          · have hle := session_le_of_reading hrest (settled_after (settled_of_none hnone)) hs
            rw [m.session_after] at hle
            exact Nat.lt_of_lt_of_le hlt hle
          · have hlt := ih hrest (Poll.connection_of_no_reading hidle)
            exact Nat.lt_of_le_of_lt m.session_le_after hlt

end

/-! ## Two readings -/

section

variable {world : InputDirectory} {g : Gamepad} {front mid back : List Poll} {p q : Poll}
  {r s : Reading}

theorem identity_eq_iff (h : Successive world g (front ++ p :: (mid ++ q :: back)))
    (hsettled : Settled world g) (hr : p.reading = some r) (hs : q.reading = some s) :
    r.identity = s.identity ↔ ∀ m ∈ mid, m.reading ≠ none := by
  obtain ⟨_, hbefore, _, hrun⟩ := successive_append h hsettled
  obtain ⟨c, _, hread, hafter⟩ := Poll.connection_of_reading hr
  constructor
  · -- after a poll without a reading the numbers are new ones
    intro heq m hm hnone
    obtain ⟨mid₁, mid₂, rfl⟩ := List.append_of_mem hm
    rw [List.append_assoc, List.cons_append] at hrun
    obtain ⟨_, _, hle, hrun'⟩ := successive_append hrun (settled_after hbefore)
    have hlt := session_lt_of_none hs hrun' (Poll.connection_of_no_reading hnone)
    rw [← heq, session_of_reading hbefore hr, ← p.session_after] at hlt
    have hle' := m.session_le_after
    omega
  · intro hall
    have hc := connection_of_readings hrun hafter hall
    obtain ⟨c', hc', hread', _⟩ := Poll.connection_of_reading hs
    have hcc : c' = c := Option.some.inj (hc'.symm.trans hc)
    rw [(read?_eq hread).1, (read?_eq hread').1, hcc]

/-- Both readings are made through one connection, and from one device. -/
def SameSource (p q : Poll) (r s : Reading) : Prop :=
  ∃ c, p.connection? = some c ∧ q.connection? = some c
    ∧ (∃ d d', p.world.device? c.device = some d ∧ q.world.device? c.device = some d'
      ∧ hardware d = hardware d')
    ∧ r.buttons.length = s.buttons.length ∧ r.axes.length = s.axes.length

theorem SameSource.symm (h : SameSource p q r s) : SameSource q p s r := by
  obtain ⟨c, hp, hq, ⟨d, d', hd, hd', heq⟩, hbuttons, haxes⟩ := h
  exact ⟨c, hq, hp, ⟨d', d, hd', hd, heq.symm⟩, hbuttons.symm, haxes.symm⟩

theorem sameSource_of_later (h : Successive world g (front ++ p :: (mid ++ q :: back)))
    (hsettled : Settled world g) (hr : p.reading = some r) (hs : q.reading = some s)
    (hidentity : r.identity = s.identity) : SameSource p q r s := by
  obtain ⟨_, hbefore, _, hrun⟩ := successive_append h hsettled
  obtain ⟨c, hc, hread, hafter⟩ := Poll.connection_of_reading hr
  have hall := (identity_eq_iff h hsettled hr hs).mp hidentity
  have hcq := connection_of_readings hrun hafter hall
  obtain ⟨c', hc', hread', _⟩ := Poll.connection_of_reading hs
  have hcc : c' = c := Option.some.inj (hc'.symm.trans hcq)
  subst hcc
  obtain ⟨d, hd⟩ := (settled_attached hbefore).device c' hc
  obtain ⟨hsame, _, _, _⟩ := successive_append hrun (settled_after hbefore)
  obtain ⟨d', hd', hhardware⟩ := hsame c'.device d hd
  obtain ⟨_, hbuttons, haxes⟩ := read?_eq hread
  obtain ⟨_, hbuttons', haxes'⟩ := read?_eq hread'
  exact ⟨c', hc, hcq, ⟨d, d', hd, hd', hhardware.symm⟩, hbuttons.trans hbuttons'.symm,
    haxes.trans haxes'.symm⟩

end

/-- Readings with the same identity come from the same source, whichever of them is earlier. -/
theorem sameSource_of_mem {world : InputDirectory} {g : Gamepad} {ps : List Poll} {p q : Poll}
    {r s : Reading} (h : Successive world g ps) (hsettled : Settled world g) (hp : p ∈ ps)
    (hq : q ∈ ps) (hr : p.reading = some r) (hs : q.reading = some s)
    (hidentity : r.identity = s.identity) : SameSource p q r s := by
  obtain ⟨front, rest, rfl⟩ := List.append_of_mem hp
  rcases List.mem_append.mp hq with hq | hq
  · obtain ⟨front₁, front₂, rfl⟩ := List.append_of_mem hq
    rw [List.append_assoc, List.cons_append] at h
    exact (sameSource_of_later h hsettled hs hr hidentity.symm).symm
  · rcases List.mem_cons.mp hq with rfl | hq
    · rw [hr] at hs
      injection hs with hs
      subst hs
      obtain ⟨_, hbefore, _, _⟩ := successive_append h hsettled
      obtain ⟨c, hc, _⟩ := Poll.connection_of_reading hr
      obtain ⟨d, hd⟩ := (settled_attached hbefore).device c hc
      exact ⟨c, hc, hc, ⟨d, d, hd, hd, rfl⟩, rfl, rfl⟩
    · obtain ⟨mid, back, rfl⟩ := List.append_of_mem hq
      exact sameSource_of_later h hsettled hr hs hidentity

/-! ## All connections -/

/-- The connections that are made bear successive numbers. -/
theorem sessions_of_successive {world : InputDirectory} {g : Gamepad} {ps : List Poll}
    (h : Successive world g ps) :
    (ps.filterMap Poll.opened?).map (·.identity.session)
      = List.range' (g.session + 1) (ps.filterMap Poll.opened?).length := by
  induction h with
  | nil => rfl
  | @cons world p ps _ _ ih =>
      have hsession : p.after.session = p.before.session + p.opened?.toList.length :=
        p.session_after.trans p.session_attached
      cases p.attach_cases with
      | waits _ hopened | fails _ hopened =>
          rw [hopened] at hsession
          rw [List.filterMap_cons_none hopened, ih, hsession]
          rfl
      | connects _ hopened _ hconnect =>
          rw [hopened] at hsession
          rw [List.filterMap_cons_some hopened, List.map_cons, List.length_cons, List.range'_succ,
            ih, hsession, (connect?_eq hconnect).2]
          rfl

/-- A poll through a connection gives nothing exactly if a request for keys or axes is refused, and
then the connection is given up. -/
theorem reading_of_connection {p : Poll} {c : Connection} (hsettled : Settled p.world p.before)
    (hc : p.connection? = some c) :
    ∃ d, p.world.device? c.device = some d
      ∧ (p.reading = none ↔ d.readKeys = none ∨ d.readAxes = none)
      ∧ (p.reading = none → p.after.connection = none) := by
  obtain ⟨d, hd⟩ := (settled_attached hsettled).device c hc
  refine ⟨d, hd, ?_, Poll.connection_of_no_reading⟩
  rw [← read?_eq_none_iff hd]
  cases p.sample_cases with
  | idle hnone => rw [hc] at hnone; exact absurd hnone (by simp)
  | read hc' hread hreading | lost hc' hread hreading =>
      have hcc := Option.some.inj (hc.symm.trans hc')
      rw [hreading, hcc, hread]

/--
**An identity is a connection.**

Whatever happens among the devices, and whenever the source is polled:

- Two readings have the same identity exactly if every poll between them gave a reading.
- All readings with one identity are made through one connection to one device, and have the same
  numbers of buttons and axes.
- The connections that are made bear the session numbers 1, 2, 3 and so on. Attempts that fail use
  up no number.
- A poll through a connection gives nothing exactly if the device refuses to tell its keys or its
  axes, and then the connection is given up.
-/
theorem identity_of_polls (path : Option String) (rescanInterval : Nat) (world : InputDirectory)
    (events : List SourceEvent) :
    let ps := polls events world (.start path rescanInterval)
    (∀ front p mid q back r s, ps = front ++ p :: (mid ++ q :: back) → p.reading = some r →
        q.reading = some s → (r.identity = s.identity ↔ ∀ m ∈ mid, m.reading ≠ none))
      ∧ (∀ p ∈ ps, ∀ q ∈ ps, ∀ r s, p.reading = some r → q.reading = some s →
        r.identity = s.identity → SameSource p q r s)
      ∧ (ps.filterMap Poll.opened?).map (·.identity.session)
        = List.range' 1 (ps.filterMap Poll.opened?).length
      ∧ ∀ p ∈ ps, ∀ c, p.connection? = some c → ∃ d, p.world.device? c.device = some d
        ∧ (p.reading = none ↔ d.readKeys = none ∨ d.readAxes = none)
        ∧ (p.reading = none → p.after.connection = none) := by
  intro ps
  have hrun : Successive world (.start path rescanInterval) ps := successive_polls events world _
  have hsettled : Settled world (.start path rescanInterval) := settled_of_none rfl
  refine ⟨?_, ?_, sessions_of_successive hrun, ?_⟩
  · intro front p mid q back r s hps hr hs
    exact identity_eq_iff (hps ▸ hrun) hsettled hr hs
  · intro p hp q hq r s hr hs hidentity
    exact sameSource_of_mem hrun hsettled hp hq hr hs hidentity
  · intro p hp c hc
    obtain ⟨front, rest, hps⟩ := List.append_of_mem hp
    exact reading_of_connection (successive_append (hps ▸ hrun) hsettled).settled hc

/-- A gamepad with a single button. -/
def singleButtonPad : InputDevice := ⟨[], 0x054c, 0x0ce6, [southButton], [], [], .none⟩

/-- The gamepad is plugged in, pulled out and plugged in again, with a poll after each. -/
def replugged : List SourceEvent :=
  [.change (.plug "event0" singleButtonPad), .poll 0, .change (.unplug "event0"), .poll 1,
    .change (.plug "event0" singleButtonPad), .poll 2000]

/-- The same gamepad in the same place has a new identity once it was pulled out. -/
theorem identity_ne_of_replugged : ∃ p m q r s,
    polls replugged (.empty .directory) (.start (some "/dev/input/event0") 1000) = [p, m, q]
      ∧ p.reading = some r ∧ m.reading = none ∧ q.reading = some s
      ∧ r.identity.id = s.identity.id ∧ r.identity ≠ s.identity := by
  obtain ⟨hidentity, _⟩ :=
    identity_of_polls (some "/dev/input/event0") 1000 (.empty .directory) replugged
  refine ⟨_, _, _, _, _, rfl, rfl, rfl, rfl, rfl, ?_⟩
  intro heq
  exact (hidentity [] _ [_] _ [] _ _ rfl rfl rfl).mp heq _ List.mem_cons_self rfl

end PadMapping.Proofs
