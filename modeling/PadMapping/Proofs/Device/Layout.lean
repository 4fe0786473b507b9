import Mathlib.Data.List.Basic
import PadMapping.Proofs.Device.Identity

/-!
# The layout of a device

The places of a reading stand for the buttons and axes of the device in the order of their codes.
Which ones these are is settled when a connection is made, and so is the scale of each axis. What is
read later are only the state of the keys and the values of the axes.

The codes are the same at every reading because they belong to the hardware (`LaidOut.of_hardware`),
and every connection that is read through was made by a poll of the same source
(`exists_opened_of_connection?`).
-/

namespace PadMapping.Proofs

/-! ## Codes -/

/-- The codes with `P`, each once and in ascending order. -/
structure Ascending (P : Nat → Prop) (codes : List Nat) : Prop where
  sorted : codes.Pairwise (· < ·)
  mem_iff : ∀ code, code ∈ codes ↔ P code

/-- The key with this code is a button of the device. -/
def IsButton (d : InputDevice) (code : Nat) : Prop :=
  firstButton ≤ code ∧ code < keyBound ∧ code ∈ d.keys

/-- The axis with this code is one of the device, and is used. -/
def IsUsedAxis (d : InputDevice) (code : Nat) : Prop :=
  code ≤ lastAxis ∧ code ∈ d.axes.map (·.code)

section

variable {d d' : InputDevice} {axes : List RawAxis} {code : Nat}

theorem ascending_buttonCodes (d : InputDevice) : Ascending (IsButton d) d.buttonCodes where
  sorted := List.pairwise_lt_range.filter _
  mem_iff := by
    intro code
    simp only [InputDevice.buttonCodes, IsButton, List.mem_filter, List.mem_range,
      Bool.and_eq_true, decide_eq_true_eq, List.contains_iff_mem]
    exact and_left_comm

theorem ascending_axisCodes (d : InputDevice) : Ascending (IsUsedAxis d) d.axisCodes where
  sorted := List.pairwise_lt_range.filter _
  mem_iff := by
    intro code
    simp only [InputDevice.axisCodes, IsUsedAxis, List.mem_filter, List.mem_range,
      Nat.lt_succ_iff, List.any_eq_true, List.mem_map, beq_iff_eq]

theorem code_of_find? {axis : RawAxis} (h : RawAxis.find? axes code = some axis) :
    axis.code = code := by
  rw [RawAxis.find?] at h
  simpa using List.find?_some h

theorem exists_find?_iff :
    (∃ axis, RawAxis.find? axes code = some axis) ↔ code ∈ axes.map (·.code) := by
  rw [← Option.isSome_iff_exists, RawAxis.find?, List.find?_isSome, List.mem_map]
  simp

/-- The codes of the axes belong to the hardware. -/
theorem codes_of_hardware (h : hardware d' = hardware d) :
    d'.axes.map (·.code) = d.axes.map (·.code) := by
  have haxes : d'.axes.map ({ · with value := 0 }) = d.axes.map ({ · with value := 0 }) :=
    congrArg InputDevice.axes h
  simpa [Function.comp_def] using congrArg (List.map RawAxis.code) haxes

theorem buttonCodes_of_hardware (h : hardware d' = hardware d) :
    d'.buttonCodes = d.buttonCodes := by
  have hkeys : d'.keys = d.keys := show (hardware d').keys = (hardware d).keys by rw [h]
  rw [InputDevice.buttonCodes, hkeys, InputDevice.buttonCodes]

theorem axisCodes_eq (d : InputDevice) :
    d.axisCodes = (List.range (lastAxis + 1)).filter (d.axes.map (·.code)).contains := by
  refine List.filter_congr fun code _ => ?_
  rw [Bool.eq_iff_iff]
  simp

theorem axisCodes_of_hardware (h : hardware d' = hardware d) : d'.axisCodes = d.axisCodes := by
  rw [axisCodes_eq, codes_of_hardware h, axisCodes_eq]

end

/-! ## Connections -/

/-- The connection has the layout of the device. -/
structure LaidOut (c : Connection) (d : InputDevice) : Prop where
  buttons : c.buttons = d.buttonCodes
  axes : c.axes.map (·.code) = d.axisCodes

/-- The axes of the connection have the scales that those of the device have now. -/
def Scaled (c : Connection) (d : InputDevice) : Prop :=
  ∀ layout ∈ c.axes, ∃ axis, RawAxis.find? d.axes layout.code = some axis
    ∧ layout.range = axis.range

section

variable {c : Connection} {d d' : InputDevice}

theorem LaidOut.of_hardware (h : LaidOut c d) (hsame : hardware d' = hardware d) :
    LaidOut c d' where
  buttons := h.buttons.trans (buttonCodes_of_hardware hsame).symm
  axes := h.axes.trans (axisCodes_of_hardware hsame).symm

/-- **What is settled when a connection is made.** -/
theorem laidOut_of_connect? {path : String} {number session : Nat}
    (h : Connection.connect? path number d session = some c) : LaidOut c d ∧ Scaled c d := by
  rw [Connection.connect?] at h
  obtain ⟨axes, hread, h⟩ := Option.bind_eq_some_iff.mp h
  injection h with h
  subst h
  rw [axes_of_readAxes hread]
  refine ⟨⟨by dsimp only, ?_⟩, ?_⟩
  · -- every code that is used has an axis, so none is left out
    have hcode : ∀ code ∈ d.axisCodes,
        ((RawAxis.find? d.axes code).map fun axis => (⟨code, axis.range⟩ : AxisLayout)).map (·.code)
          = some code := by
      intro code hmem
      obtain ⟨axis, haxis⟩ :=
        exists_find?_iff.mpr (((ascending_axisCodes d).mem_iff code).mp hmem).2
      rw [haxis]
      rfl
    rw [List.map_filterMap, List.filterMap_congr hcode, List.filterMap_some]
  · intro layout hmem
    obtain ⟨code, _, hlayout⟩ := List.mem_filterMap.mp hmem
    obtain ⟨axis, haxis, rfl⟩ := Option.map_eq_some_iff.mp hlayout
    exact ⟨axis, haxis, rfl⟩

end

/-! ## Readings -/

/-- How a reading shows a device that was in the state `rest` when it was opened, and is in the
state `now` when it is read. -/
structure Reflects (rest now : InputDevice) (r : Reading) : Prop where
  /-- The places of the buttons stand for their codes in order, and show which ones are held. -/
  buttons : ∃ codes, Ascending (IsButton now) codes
    ∧ r.buttons = codes.map fun code => decide (code ∈ now.pressed)
  /-- The places of the axes stand for their codes in order, and show the present values on the
  scales of then. -/
  axes : ∃ codes, Ascending (IsUsedAxis now) codes ∧ r.axes.length = codes.length
    ∧ ∀ (i : Nat) code, codes[i]? = some code → ∃ opened present,
      RawAxis.find? rest.axes code = some opened ∧ RawAxis.find? now.axes code = some present
        ∧ r.axes[i]? = some (opened.range.normalize present.value)

theorem reflects_of_read? {c : Connection} {rest now : InputDevice} {world : InputDirectory}
    {r : Reading} (hlaid : LaidOut c rest) (hscaled : Scaled c rest)
    (hsame : hardware now = hardware rest) (hnow : world.device? c.device = some now)
    (h : c.read? world = some r) : Reflects rest now r := by
  obtain ⟨d, hd, _, hbuttons, haxes⟩ := read?_eq_some h
  rw [hnow] at hd
  injection hd with hd
  subst hd
  obtain ⟨hcodes, hused⟩ := hlaid.of_hardware hsame
  refine ⟨⟨now.buttonCodes, ascending_buttonCodes now, ?_⟩,
    ⟨now.axisCodes, ascending_axisCodes now, ?_, ?_⟩⟩
  · rw [hbuttons, hcodes]
    exact List.map_congr_left fun code _ => List.contains_eq_mem code now.pressed
  · rw [haxes, List.length_map, ← hused, List.length_map]
  · -- the same place, once among the axes of now and once in the layout with the scales of then
    intro i code hi
    have hcode := ((ascending_axisCodes now).mem_iff code).mp (List.mem_of_getElem? hi)
    obtain ⟨present, hpresent⟩ := exists_find?_iff.mpr hcode.2
    rw [← hused, List.getElem?_map] at hi
    obtain ⟨layout, hlayout, rfl⟩ := Option.map_eq_some_iff.mp hi
    obtain ⟨opened, hopened, hrange⟩ := hscaled layout (List.mem_of_getElem? hlayout)
    refine ⟨opened, present, hopened, hpresent, ?_⟩
    rw [haxes, List.getElem?_map, hlayout, Option.map_some, Connection.axisValue, hpresent, hrange]
    rfl

/-! ## Polls through a connection -/

section

variable {world : InputDirectory} {g : Gamepad} {ps : List Poll} {p q : Poll} {c : Connection}

theorem session_of_connection? (h : Settled q.world q.before) (hc : q.connection? = some c) :
    c.identity.session = q.attached.session :=
  (settled_attached h).session c hc

theorem session_of_opened? (h : p.opened? = some c) :
    c.identity.session = p.before.session + 1 := by
  obtain ⟨_, path, number, d, _, hconnect⟩ := Poll.connects_of_opened? h
  rw [(connect?_eq hconnect).2]

/-- A connection has the layout of the device to which it is opened, and the scales of then. -/
theorem laidOut_of_opened? (h : p.opened? = some c) :
    ∃ d, p.world.device? c.device = some d ∧ LaidOut c d ∧ Scaled c d := by
  obtain ⟨_, path, number, d, hcandidate, hconnect⟩ := Poll.connects_of_opened? h
  refine ⟨d, ?_, laidOut_of_connect? hconnect⟩
  rw [(connect?_eq hconnect).1]
  exact device?_of_candidate? hcandidate

/-- Only the poll that opens a connection and later ones can read through it. -/
theorem sameDevices_of_opened (h : Successive world g ps) (hsettled : Settled world g)
    (hp : p ∈ ps) (hq : q ∈ ps) (hopened : p.opened? = some c) (hc : q.connection? = some c) :
    SameDevices p.world q.world := by
  obtain ⟨front, rest, rfl⟩ := List.append_of_mem hp
  rcases List.mem_append.mp hq with hq | hq
  · -- an earlier poll would have read under a session number that was not yet used
    obtain ⟨front₁, front₂, rfl⟩ := List.append_of_mem hq
    rw [List.append_assoc, List.cons_append] at h
    obtain ⟨_, hbefore, _, hrun⟩ := successive_append h hsettled
    obtain ⟨_, _, hle, _⟩ := successive_append hrun (settled_after hbefore)
    have hnumber := session_of_connection? hbefore hc
    rw [session_of_opened? hopened, ← q.session_after] at hnumber
    omega
  · obtain ⟨_, hbefore, _, hrun⟩ := successive_append h hsettled
    rcases List.mem_cons.mp hq with rfl | hq
    · exact .refl q.world
    · obtain ⟨mid, back, rfl⟩ := List.append_of_mem hq
      exact (successive_append hrun (settled_after hbefore)).devices

/-- What a poll reads through is a connection that it found or one that it makes. -/
theorem connection?_cases (h : p.connection? = some c) :
    p.before.connection = some c ∨ p.opened? = some c := by
  cases p.attach_cases with
  | waits _ _ hattached =>
      rw [Poll.connection?, hattached] at h
      exact Or.inl h
  | fails hnone _ hattached =>
      rw [Poll.connection?, hattached] at h
      exact Or.inl h
  | connects _ hopened _ _ hattached =>
      rw [Poll.connection?, hattached] at h
      exact Or.inr (hopened.trans h)

theorem connection?_of_after (h : p.after.connection = some c) : p.connection? = some c := by
  cases p.sample_cases with
  | idle _ _ hafter | read _ _ _ hafter => rw [hafter] at h; exact h
  | lost _ _ hreading =>
      rw [Poll.connection_of_no_reading hreading] at h
      exact absurd h (by simp)

/-- A connection that the source did not begin with was made by one of its polls. -/
theorem exists_opened_of_connection? {back : List Poll} : ∀ {front : List Poll}
    {world : InputDirectory} {g : Gamepad}, Successive world g (front ++ q :: back) →
      q.connection? = some c → g.connection = none →
        ∃ p ∈ front ++ q :: back, p.opened? = some c := by
  have hrun : ∀ {front : List Poll} {world : InputDirectory} {g : Gamepad},
      Successive world g (front ++ q :: back) → q.connection? = some c →
        g.connection = some c ∨ ∃ p ∈ front ++ q :: back, p.opened? = some c := by
    -- backwards from the poll that reads: a connection is from the poll before, unless it is new
    intro front
    induction front with
    | nil =>
        intro world g h hc
        cases h with
        | cons =>
            exact (connection?_cases hc).imp id fun hopened => ⟨q, List.mem_cons_self, hopened⟩
    | cons m front ih =>
        intro world g h hc
        cases h with
        | cons _ hrest =>
            rcases ih hrest hc with hafter | ⟨p, hp, hopened⟩
            · exact (connection?_cases (connection?_of_after hafter)).imp id
                fun hopened => ⟨m, List.mem_cons_self, hopened⟩
            · exact Or.inr ⟨p, List.mem_cons_of_mem m hp, hopened⟩
  intro front world g h hc hnone
  refine (hrun h hc).resolve_left fun hstart => ?_
  exact absurd (hnone.symm.trans hstart) (by simp)

end

end PadMapping.Proofs
