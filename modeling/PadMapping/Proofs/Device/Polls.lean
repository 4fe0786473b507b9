import PadMapping.Device.Gamepad
import PadMapping.Proofs.Device.World

/-!
# Polls of a gamepad

A source of readings is polled again and again while the devices change as they like. What it does
in a poll falls into two halves: it may look for a device and connect to it, and it then reads
through its connection if it has one.

This module says what each half can come to, and what holds of a source between polls. A connection
leads to a device that is known to the directory, and bears the number of the session that the
source is in.
-/

namespace PadMapping.Proofs

/-! ## Looking for a device -/

theorem open?_eq {world : InputDirectory} {name : String} {number : Nat} {d : InputDevice}
    (h : world.open? name = some (number, d)) : world.device? number = some d := by
  rw [InputDirectory.open?] at h
  obtain ⟨n, _, h⟩ := Option.bind_eq_some_iff.mp h
  obtain ⟨device, hdevice, h⟩ := Option.bind_eq_some_iff.mp h
  split at h
  · exact absurd h (by simp)
  · injection h with h
    injection h with hn hd
    rwa [← hn, ← hd]

theorem open?_of_mem_scan {world : InputDirectory} {found : List (String × Nat × InputDevice)}
    {name : String} {number : Nat} {d : InputDevice} (hscan : world.scan = .ok found)
    (hmem : (name, number, d) ∈ found) : world.open? name = some (number, d) := by
  rw [InputDirectory.scan] at hscan
  split at hscan
  · exact absurd hscan (by simp)
  · exact absurd hscan (by simp)
  · injection hscan with hscan
    subst hscan
    obtain ⟨name', _, hname⟩ := List.mem_filterMap.mp hmem
    obtain ⟨⟨n, device⟩, hopen, heq⟩ := Option.map_eq_some_iff.mp hname
    injection heq with hname heq
    subst hname
    rwa [heq] at hopen

theorem device?_of_candidate? {g : Gamepad} {world : InputDirectory} {path : String} {number : Nat}
    {d : InputDevice} (h : g.candidate? world = some (path, number, d)) :
    world.device? number = some d := by
  rw [Gamepad.candidate?] at h
  split at h
  · obtain ⟨name, _, h⟩ := Option.bind_eq_some_iff.mp h
    obtain ⟨⟨n, device⟩, hopen, h⟩ := Option.bind_eq_some_iff.mp h
    injection h with h
    injection h with _ h
    rw [h] at hopen
    exact open?_eq hopen
  · obtain ⟨found, hscan, h⟩ := Option.bind_eq_some_iff.mp h
    obtain ⟨⟨name, n, device⟩, hfind, h⟩ := Option.bind_eq_some_iff.mp h
    injection h with h
    injection h with _ h
    rw [h] at hfind
    have hscan' : world.scan = .ok found := by
      cases hworld : world.scan with
      | error fault => rw [hworld] at hscan; exact absurd hscan (by simp [Except.toOption])
      | ok found' => rw [hworld] at hscan; injection hscan with hscan; rw [hscan]
    exact open?_eq (open?_of_mem_scan hscan' (List.mem_of_find?_eq_some hfind))

/-- A connection that is made is one to the given device, and has the given number. -/
theorem connect?_eq {path : String} {number session : Nat} {d : InputDevice} {c : Connection}
    (h : Connection.connect? path number d session = some c) :
    c.device = number ∧ c.identity = ⟨d.id, session⟩ := by
  rw [Connection.connect?] at h
  obtain ⟨axes, _, h⟩ := Option.bind_eq_some_iff.mp h
  injection h with h
  subst h
  exact ⟨rfl, rfl⟩

/-! ## One poll -/

/-- A poll: the devices that it finds, the time, and the source before it. -/
structure Poll where
  world : InputDirectory
  now : Nat
  before : Gamepad
deriving DecidableEq, Repr

namespace Poll

variable (p : Poll)

/-- The source when it is about to read. -/
def attached : Gamepad :=
  if p.before.wantsToConnect p.now then p.before.connect p.world p.now else p.before

/-- The connection through which the poll reads. -/
def connection? : Option Connection := p.attached.connection

/-- The connection that the poll makes, if it tries to and succeeds. -/
def opened? : Option Connection :=
  if p.before.wantsToConnect p.now then p.connection? else none

/-- The source after the poll. -/
def after : Gamepad := (p.before.poll p.world p.now).1

/-- What the poll gives. -/
def reading : Option Reading := (p.before.poll p.world p.now).2

/-- What the first half of a poll can come to. -/
inductive Attaches : Prop where
  /-- There is a connection already, or it is too early to look for a device. -/
  | waits : p.before.wantsToConnect p.now = false → p.opened? = none → p.attached = p.before →
      Attaches
  /-- No connection is made, and no session number is used up. -/
  | fails : p.before.connection = none → p.opened? = none →
      p.attached = { p.before with lastScan := some p.now } → Attaches
  | connects {path : String} {number : Nat} {d : InputDevice} {c : Connection} :
      p.before.connection = none → p.opened? = some c →
      p.before.candidate? p.world = some (path, number, d) →
      Connection.connect? path number d (p.before.session + 1) = some c →
      p.attached = { p.before with
        lastScan := some p.now, session := p.before.session + 1, connection := some c } →
      Attaches

end Poll

theorem connect_eq (world : InputDirectory) (now : Nat) (g : Gamepad) :
    g.connect world now
      = match (g.candidate? world).bind fun found =>
          Connection.connect? found.1 found.2.1 found.2.2 (g.session + 1) with
        | none => { g with lastScan := some now }
        | some c => { g with
            lastScan := some now, session := g.session + 1, connection := some c } := rfl

namespace Poll

variable (p : Poll)

/-- **The first half of a poll.** -/
theorem attach_cases : p.Attaches := by
  cases hwants : p.before.wantsToConnect p.now with
  | false => exact .waits hwants (by simp [opened?, hwants]) (by simp [attached, hwants])
  | true =>
      have hnone : p.before.connection = none := by
        rw [Gamepad.wantsToConnect, Bool.and_eq_true] at hwants
        exact Option.isNone_iff_eq_none.mp hwants.1
      have hopened : p.opened? = p.attached.connection := by
        rw [opened?, if_pos hwants, connection?]
      have hattached : p.attached = p.before.connect p.world p.now := by
        rw [attached, if_pos hwants]
      rw [connect_eq] at hattached
      cases hattempt : (p.before.candidate? p.world).bind fun found =>
          Connection.connect? found.1 found.2.1 found.2.2 (p.before.session + 1) with
      | none =>
          rw [hattempt] at hattached
          exact .fails hnone (by rw [hopened, hattached]; exact hnone) hattached
      | some c =>
          rw [hattempt] at hattached
          obtain ⟨⟨path, number, d⟩, hcandidate, hconnect⟩ := Option.bind_eq_some_iff.mp hattempt
          exact .connects hnone (by rw [hopened, hattached]) hcandidate hconnect hattached

variable {p} in
/-- What a poll does that makes a connection. -/
theorem connects_of_opened? {c : Connection} (h : p.opened? = some c) :
    p.connection? = some c ∧ ∃ path number d,
      p.before.candidate? p.world = some (path, number, d)
        ∧ Connection.connect? path number d (p.before.session + 1) = some c := by
  cases p.attach_cases with
  | waits _ hnone | fails _ hnone => rw [hnone] at h; exact absurd h (by simp)
  | @connects path number d c' _ hopened hcandidate hconnect hattached =>
      rw [hopened] at h
      injection h with h
      subst h
      exact ⟨by rw [connection?, hattached], path, number, d, hcandidate, hconnect⟩

/-- What the second half of a poll can come to. -/
inductive Samples : Prop where
  /-- There is no connection to read through. -/
  | idle : p.connection? = none → p.reading = none → p.after = p.attached → Samples
  | read {c : Connection} {r : Reading} : p.connection? = some c → c.read? p.world = some r →
      p.reading = some r → p.after = p.attached → Samples
  /-- The connection is given up. -/
  | lost {c : Connection} : p.connection? = some c → c.read? p.world = none →
      p.reading = none →
      p.after = { p.attached with connection := none, lastScan := some p.now } → Samples

/-- **The second half of a poll.** -/
theorem sample_cases : p.Samples := by
  have hpoll : p.before.poll p.world p.now = p.attached.sample p.world p.now := rfl
  cases hconnection : p.attached.connection with
  | none =>
      have hsample : p.before.poll p.world p.now = (p.attached, none) := by
        rw [hpoll, Gamepad.sample, hconnection]
      exact .idle hconnection (by rw [reading, hsample]) (by rw [after, hsample])
  | some c =>
      cases hread : c.read? p.world with
      | none =>
          have hsample : p.before.poll p.world p.now
              = ({ p.attached with connection := none, lastScan := some p.now }, none) := by
            rw [hpoll, Gamepad.sample, hconnection]
            dsimp only
            rw [hread]
          exact .lost hconnection hread (by rw [reading, hsample]) (by rw [after, hsample])
      | some r =>
          have hsample : p.before.poll p.world p.now = (p.attached, some r) := by
            rw [hpoll, Gamepad.sample, hconnection]
            dsimp only
            rw [hread]
          exact .read hconnection hread (by rw [reading, hsample]) (by rw [after, hsample])

/-- A reading comes from the connection that the source keeps. -/
theorem connection_of_reading {p : Poll} {r : Reading} (h : p.reading = some r) :
    ∃ c, p.connection? = some c ∧ c.read? p.world = some r ∧ p.after.connection = some c := by
  cases p.sample_cases with
  | idle _ hnone | lost _ _ hnone => rw [hnone] at h; exact absurd h (by simp)
  | @read c r' hc hread hr hafter =>
      rw [hr] at h
      injection h with h
      subst h
      exact ⟨c, hc, hread, by rw [hafter]; exact hc⟩

/-- A poll that gives nothing leaves the source without a connection. -/
theorem connection_of_no_reading {p : Poll} (h : p.reading = none) : p.after.connection = none := by
  cases p.sample_cases with
  | idle hc _ hafter => rw [hafter]; exact hc
  | read _ _ hr => rw [hr] at h; exact absurd h (by simp)
  | lost _ _ _ hafter => rw [hafter]

theorem session_after (p : Poll) : p.after.session = p.attached.session := by
  cases p.sample_cases with
  | idle _ _ hafter | read _ _ _ hafter | lost _ _ _ hafter => rw [hafter]

/-- Only a connection that is made takes a session number. -/
theorem session_attached (p : Poll) :
    p.attached.session = p.before.session + p.opened?.toList.length := by
  cases p.attach_cases with
  | waits _ hopened hattached | fails _ hopened hattached => rw [hopened, hattached]; rfl
  | connects _ hopened _ _ hattached => rw [hopened, hattached]; rfl

/-- A connection that is made shows in the session number of the source. -/
theorem session_after_eq_succ_iff (p : Poll) :
    p.after.session = p.before.session + 1 ↔ ∃ c, p.opened? = some c := by
  rw [p.session_after, p.session_attached]
  cases p.opened? <;> simp

/-- A poll that makes a connection reads through it at once, and keeps it if that works. -/
theorem after_of_opened? {p : Poll} {c : Connection} (h : p.opened? = some c) :
    p.reading = c.read? p.world ∧ p.after.connection = p.reading.map fun _ => c := by
  obtain ⟨hc, _⟩ := connects_of_opened? h
  cases p.sample_cases with
  | idle hnone => exact absurd (hnone.symm.trans hc) (by simp)
  | read hc' hread hreading hafter =>
      rw [hc] at hc'
      injection hc' with hc'
      subst hc'
      rw [hreading, hread, hafter]
      exact ⟨rfl, hc⟩
  | lost hc' hread hreading hafter =>
      rw [hc] at hc'
      injection hc' with hc'
      subst hc'
      rw [hreading, hread, hafter]
      exact ⟨rfl, rfl⟩

theorem session_le_after (p : Poll) : p.before.session ≤ p.after.session := by
  rw [p.session_after, p.session_attached]
  exact Nat.le_add_right ..

theorem connection?_of_connected {p : Poll} {c : Connection} (h : p.before.connection = some c) :
    p.connection? = some c := by
  cases p.attach_cases with
  | waits _ _ hattached => rw [connection?, hattached, h]
  | fails hnone | connects hnone =>
      rw [hnone] at h
      exact absurd h (by simp)

/-- A source without a connection makes one under the next number, or it gives nothing. -/
theorem session_lt_or_idle {p : Poll} (h : p.before.connection = none) :
    p.before.session < p.attached.session ∨ p.reading = none := by
  cases p.attach_cases with
  | connects _ _ _ _ hattached => exact Or.inl (by rw [hattached]; exact Nat.lt_succ_self _)
  | waits _ _ hattached | fails _ _ hattached =>
      have hnone : p.connection? = none := by rw [connection?, hattached, h]
      cases p.sample_cases with
      | idle _ hreading => exact Or.inr hreading
      | read hc | lost hc =>
          rw [hnone] at hc
          exact absurd hc (by simp)

end Poll

/-! ## Readings -/

section

variable {c : Connection} {world : InputDirectory}

theorem pressed_of_readKeys {d : InputDevice} {pressed : List Nat}
    (h : d.readKeys = some pressed) : pressed = d.pressed := by
  rw [InputDevice.readKeys] at h
  split at h
  · exact absurd h (by simp)
  · injection h with h
    exact h.symm

theorem axes_of_readAxes {d : InputDevice} {axes : List RawAxis} (h : d.readAxes = some axes) :
    axes = d.axes := by
  rw [InputDevice.readAxes] at h
  split at h
  · rename_i hempty
    injection h with h
    rw [← h, List.isEmpty_iff.mp hempty]
  · split at h
    · exact absurd h (by simp)
    · injection h with h
      exact h.symm

/-- **What a reading holds**: the present state of the device, by the layout of the connection. -/
theorem read?_eq_some {r : Reading} (h : c.read? world = some r) :
    ∃ d, world.device? c.device = some d ∧ r.identity = c.identity
      ∧ r.buttons = c.buttons.map d.pressed.contains
      ∧ r.axes = c.axes.map (Connection.axisValue d.axes) := by
  rw [Connection.read?] at h
  obtain ⟨d, hd, h⟩ := Option.bind_eq_some_iff.mp h
  obtain ⟨pressed, hpressed, h⟩ := Option.bind_eq_some_iff.mp h
  obtain ⟨axes, haxes, h⟩ := Option.bind_eq_some_iff.mp h
  injection h with h
  subst h
  exact ⟨d, hd, rfl, by rw [pressed_of_readKeys hpressed], by rw [axes_of_readAxes haxes]⟩

theorem read?_eq {r : Reading} (h : c.read? world = some r) :
    r.identity = c.identity ∧ r.buttons.length = c.buttons.length
      ∧ r.axes.length = c.axes.length := by
  obtain ⟨d, _, hidentity, hbuttons, haxes⟩ := read?_eq_some h
  exact ⟨hidentity, by rw [hbuttons, List.length_map], by rw [haxes, List.length_map]⟩

/-- Reading fails exactly if one of the two requests is refused. -/
theorem read?_eq_none_iff {d : InputDevice} (h : world.device? c.device = some d) :
    c.read? world = none ↔ d.readKeys = none ∨ d.readAxes = none := by
  rw [Connection.read?, h]
  cases hkeys : d.readKeys with
  | none => simp [hkeys]
  | some pressed =>
      cases haxes : d.readAxes with
      | none => simp [hkeys, haxes]
      | some axes => simp [hkeys, haxes]

end

/-! ## Between polls -/

/-- What holds of a source among the devices. -/
structure Settled (world : InputDirectory) (g : Gamepad) : Prop where
  /-- A connection leads to a device. -/
  device : ∀ c, g.connection = some c → ∃ d, world.device? c.device = some d
  /-- A connection bears the number of the present session. -/
  session : ∀ c, g.connection = some c → c.identity.session = g.session

theorem settled_of_none {world : InputDirectory} {g : Gamepad} (h : g.connection = none) :
    Settled world g where
  device := fun c hc => absurd hc (by simp [h])
  session := fun c hc => absurd hc (by simp [h])

theorem Settled.of_sameDevices {world world' : InputDirectory} {g : Gamepad} (h : Settled world g)
    (hsame : SameDevices world world') : Settled world' g where
  device := by
    intro c hc
    obtain ⟨d, hd⟩ := h.device c hc
    obtain ⟨d', hd', _⟩ := hsame c.device d hd
    exact ⟨d', hd'⟩
  session := h.session

theorem settled_attached {p : Poll} (h : Settled p.world p.before) :
    Settled p.world p.attached := by
  cases p.attach_cases with
  | waits _ _ hattached => rwa [hattached]
  | fails hnone _ hattached => exact settled_of_none (by rw [hattached]; exact hnone)
  | @connects path number d c _ _ hcandidate hconnect hattached =>
      obtain ⟨hdevice, hidentity⟩ := connect?_eq hconnect
      rw [hattached]
      refine ⟨?_, ?_⟩
      · intro c' hc'
        injection hc' with hc'
        exact ⟨d, by rw [← hc', hdevice]; exact device?_of_candidate? hcandidate⟩
      · intro c' hc'
        injection hc' with hc'
        rw [← hc', hidentity]

theorem settled_after {p : Poll} (h : Settled p.world p.before) : Settled p.world p.after := by
  cases p.sample_cases with
  | idle _ _ hafter | read _ _ _ hafter => rw [hafter]; exact settled_attached h
  | lost _ _ hnone => exact settled_of_none (Poll.connection_of_no_reading hnone)

/-! ## Many polls -/

/-- What happens to a source: something among the devices, or a poll at some time. -/
inductive SourceEvent where
  | change (c : Change)
  | poll (now : Nat)
deriving DecidableEq, Repr

/-- The polls among events. -/
def polls : List SourceEvent → InputDirectory → Gamepad → List Poll
  | [], _, _ => []
  | .change c :: events, world, g => polls events (c.apply world) g
  | .poll now :: events, world, g =>
    ⟨world, now, g⟩ :: polls events world (g.poll world now).1

/-- Polls that follow each other, the first of them after `g` was left among these devices. -/
inductive Successive : InputDirectory → Gamepad → List Poll → Prop where
  | nil {world : InputDirectory} {g : Gamepad} : Successive world g []
  | cons {world : InputDirectory} {p : Poll} {ps : List Poll} : SameDevices world p.world →
      Successive p.world p.after ps → Successive world p.before (p :: ps)

theorem Successive.of_sameDevices {world world' : InputDirectory} {g : Gamepad} {ps : List Poll}
    (hsame : SameDevices world world') (h : Successive world' g ps) : Successive world g ps := by
  cases h with
  | nil => exact .nil
  | cons hworld hrest => exact .cons (hsame.trans hworld) hrest

theorem successive_polls : ∀ (events : List SourceEvent) (world : InputDirectory) (g : Gamepad),
    Successive world g (polls events world g) := by
  intro events
  induction events with
  | nil => exact fun _ _ => .nil
  | cons event events ih =>
      intro world g
      cases event with
      | change c => exact (ih (c.apply world) g).of_sameDevices (sameDevices_apply world c)
      | poll now => exact .cons (p := ⟨world, now, g⟩) (.refl world) (ih world _)

/-- What is known of a poll that comes at some time after `g` was left, with `rest` behind it. -/
structure Reached (world : InputDirectory) (g : Gamepad) (p : Poll) (rest : List Poll) : Prop where
  devices : SameDevices world p.world
  settled : Settled p.world p.before
  session : g.session ≤ p.before.session
  run : Successive p.world p.after rest

theorem successive_append : ∀ {front : List Poll} {world : InputDirectory} {g : Gamepad} {p : Poll}
    {rest : List Poll}, Successive world g (front ++ p :: rest) → Settled world g →
      Reached world g p rest := by
  intro front
  induction front with
  | nil =>
      intro world g p rest h hsettled
      cases h with
      | cons hsame hrest => exact ⟨hsame, hsettled.of_sameDevices hsame, Nat.le_refl _, hrest⟩
  | cons m front ih =>
      intro world g p rest h hsettled
      cases h with
      | cons hsame hrest =>
          obtain ⟨hsame', hsettled', hsession', hrun'⟩ :=
            ih hrest (settled_after (hsettled.of_sameDevices hsame))
          exact ⟨hsame.trans hsame', hsettled', Nat.le_trans m.session_le_after hsession', hrun'⟩

end PadMapping.Proofs
