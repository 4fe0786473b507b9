import PadMapping.Proofs.Device.Layout
import PadMapping.Proofs.Device.Listing

/-!
# What readings show of a device

A device has more than its readings have places for: keys below the first button, keys that are held
although the device does not list them, axes behind the last one that is used. `shown` is the device
with all of that at rest.

A source cannot tell a device from what is shown of it (`poll_shownIn`), and it stays so whatever
happens to the devices (`shownIn_apply`). So a change of something that is not shown changes no
reading, neither the next one nor any later one (`readings_of_hidden`). Together with `Reflects`,
which says what readings do show, this settles what a reading has to do with its device.
-/

namespace PadMapping.Proofs

/-! ## One device -/

/-- The axis with its value, if it is used. -/
def shownAxis (axis : RawAxis) : RawAxis :=
  if axis.code ≤ lastAxis then axis else { axis with value := 0 }

/-- The device without the state of keys that are no buttons of it and of axes that are not used. -/
def shown (d : InputDevice) : InputDevice :=
  { d with axes := d.axes.map shownAxis, pressed := d.buttonCodes.filter d.pressed.contains }

section

variable {d d' : InputDevice} {axis : RawAxis} {code : Nat}

theorem code_shownAxis (axis : RawAxis) : (shownAxis axis).code = axis.code := by
  rw [shownAxis]
  split <;> rfl

theorem shownAxis_shownAxis (axis : RawAxis) : shownAxis (shownAxis axis) = shownAxis axis := by
  rw [shownAxis, code_shownAxis, shownAxis]
  split <;> rfl

theorem find?_shownAxis {axes : List RawAxis} (h : code ≤ lastAxis) :
    RawAxis.find? (axes.map shownAxis) code = RawAxis.find? axes code := by
  have hcode : (fun axis : RawAxis => axis.code == code) ∘ shownAxis
      = fun axis => axis.code == code := by
    funext axis
    rw [Function.comp_apply, code_shownAxis]
  rw [RawAxis.find?, List.find?_map, hcode, ← RawAxis.find?]
  cases hfind : RawAxis.find? axes code with
  | none => rfl
  | some axis => rw [Option.map_some, shownAxis, if_pos (code_of_find? hfind ▸ h)]

theorem buttonCodes_shown (d : InputDevice) : (shown d).buttonCodes = d.buttonCodes := rfl

theorem codes_shown (d : InputDevice) : (shown d).axes.map (·.code) = d.axes.map (·.code) := by
  simp [shown, Function.comp_def, code_shownAxis]

theorem axisCodes_shown (d : InputDevice) : (shown d).axisCodes = d.axisCodes := by
  rw [axisCodes_eq, codes_shown, axisCodes_eq]

/-! ## What happens to the device -/

/-- Two devices show the same if they are the same apart from what is not shown. -/
theorem shown_congr {pressed pressed' : List Nat} {axes axes' : List RawAxis}
    (haxes : axes.map shownAxis = axes'.map shownAxis)
    (hpressed : ∀ code ∈ d.buttonCodes, code ∈ pressed ↔ code ∈ pressed') :
    shown { d with axes, pressed } = shown { d with axes := axes', pressed := pressed' } := by
  have hheld : d.buttonCodes.filter pressed.contains = d.buttonCodes.filter pressed'.contains := by
    refine List.filter_congr fun code hcode => ?_
    rw [Bool.eq_iff_iff]
    simpa using hpressed code hcode
  show { d with axes := axes.map shownAxis, pressed := d.buttonCodes.filter pressed.contains }
    = { d with axes := axes'.map shownAxis, pressed := d.buttonCodes.filter pressed'.contains }
  rw [haxes, hheld]

theorem shown_shown (d : InputDevice) : shown (shown d) = shown d := by
  refine shown_congr ?_ ?_
  · simp [Function.comp_def, shownAxis_shownAxis]
  · intro code hcode
    simp [hcode]

theorem shown_refusals (d : InputDevice) (refusals : Refusals) :
    shown { shown d with refusals } = shown { d with refusals } := by
  have hset : ∀ d : InputDevice, shown { d with refusals } = { shown d with refusals } := by
    intro d
    simp only [shown, InputDevice.buttonCodes]
  rw [hset, hset d, shown_shown]

/-- The axis after some moves. -/
def moved (values : List (Nat × Int)) (axis : RawAxis) : RawAxis :=
  values.foldl
    (fun axis (code, value) => if axis.code = code then { axis with value } else axis) axis

/-- Moves change nothing but the value. -/
theorem moved_atRest (values : List (Nat × Int)) (axis : RawAxis) :
    { moved values axis with value := 0 } = { axis with value := 0 } := by
  induction values generalizing axis with
  | nil => rfl
  | cons m values ih =>
      have hstep := ih (if axis.code = m.1 then { axis with value := m.2 } else axis)
      rw [moved, List.foldl_cons, ← moved, hstep]
      split <;> rfl

theorem moved_of_ne {values : List (Nat × Int)} (h : ∀ m ∈ values, axis.code ≠ m.1) :
    moved values axis = axis := by
  induction values with
  | nil => rfl
  | cons m values ih =>
      have hstep : moved (m :: values) axis = moved values axis :=
        congrArg (moved values) (if_neg (h m List.mem_cons_self))
      rw [hstep]
      exact ih fun m' hm' => h m' (List.mem_cons_of_mem m hm')

theorem change_eq (pressed : Option (List Nat)) (values : List (Nat × Int)) (d : InputDevice) :
    d.change pressed values
      = { d with axes := d.axes.map (moved values), pressed := pressed.getD d.pressed } := by
  have hmoves : ∀ (values : List (Nat × Int)) (d : InputDevice),
      values.foldl (fun d (m : Nat × Int) => d.moveAxis m.1 m.2) d
        = { d with axes := d.axes.map (moved values) } := by
    intro values
    induction values with
    | nil =>
        intro d
        show d = { d with axes := d.axes.map id }
        rw [List.map_id]
    | cons m values ih =>
        intro d
        rw [List.foldl_cons, ih, InputDevice.moveAxis, List.map_map]
        rfl
  exact hmoves values { d with pressed := pressed.getD d.pressed }

/-- An axis that is not used shows nothing of how it is moved. -/
theorem shownAxis_of_not_used (h : ¬ axis.code ≤ lastAxis) (values : List (Nat × Int)) :
    shownAxis (moved values axis) = { axis with value := 0 } := by
  have hrest := moved_atRest values axis
  have hcode : (moved values axis).code = axis.code := by
    simpa using congrArg RawAxis.code hrest
  rw [shownAxis, if_neg (hcode ▸ h), hrest]

theorem shownAxis_moved (values : List (Nat × Int)) (axis : RawAxis) :
    shownAxis (moved values (shownAxis axis)) = shownAxis (moved values axis) := by
  by_cases h : axis.code ≤ lastAxis
  · rw [shownAxis.eq_def axis, if_pos h]
  · rw [shownAxis_of_not_used ((code_shownAxis axis).symm ▸ h), shownAxis_of_not_used h,
      shownAxis, if_neg h]

/-- A change of keys that are no buttons and of axes that are not used shows nothing. -/
theorem shown_change_of_hidden {pressed : Option (List Nat)} {values : List (Nat × Int)}
    (hkeys : ∀ held, pressed = some held →
      ∀ code, IsButton d code → (code ∈ held ↔ code ∈ d.pressed))
    (haxes : ∀ m ∈ values, lastAxis < m.1) : shown (d.change pressed values) = shown d := by
  rw [change_eq]
  refine @shown_congr d _ d.pressed _ d.axes ?_ ?_
  · rw [List.map_map]
    refine List.map_congr_left fun axis _ => ?_
    rw [Function.comp_apply]
    by_cases h : axis.code ≤ lastAxis
    · rw [moved_of_ne fun m hm => Nat.ne_of_lt (Nat.lt_of_le_of_lt h (haxes m hm))]
    · exact (shownAxis_of_not_used h values).trans (shownAxis_of_not_used h []).symm
  · intro code hcode
    cases pressed with
    | none => exact Iff.rfl
    | some held => exact hkeys held rfl code (((ascending_buttonCodes d).mem_iff code).mp hcode)

/-- **What a device shows after it has changed** depends only on what it showed before. -/
theorem shown_alteration (how : Alteration) (d : InputDevice) :
    shown (how.apply (shown d)) = shown (how.apply d) := by
  cases how with
  | state pressed values =>
      show shown ((shown d).change pressed values) = shown (d.change pressed values)
      rw [change_eq, change_eq]
      refine shown_congr ?_ ?_
      · simp [shown, Function.comp_def, shownAxis_moved]
      · intro code hcode
        rw [buttonCodes_shown] at hcode
        cases pressed with
        | none => simp [shown, hcode]
        | some held => simp
  | refuse more => exact shown_refusals d (d.refusals.union more)
  | repair => exact shown_refusals d .none

end

/-! ## The devices of a directory -/

/-- The directory with what is shown of its devices. -/
def shownIn (world : InputDirectory) : InputDirectory :=
  { world with devices := world.devices.map shown }

theorem device?_shownIn (world : InputDirectory) (n : Nat) :
    (shownIn world).device? n = (world.device? n).map shown :=
  List.getElem?_map ..

theorem map_shown_modify {f : InputDevice → InputDevice}
    (hf : ∀ d, shown (f (shown d)) = shown (f d)) (devices : List InputDevice) (n : Nat) :
    ((devices.map shown).modify n f).map shown = (devices.modify n f).map shown := by
  refine List.ext_getElem? fun i => ?_
  rw [List.getElem?_map, List.getElem?_map, List.getElem?_modify, List.getElem?_modify,
    List.getElem?_map]
  cases devices[i]? with
  | none => rfl
  | some d =>
      show some (shown _) = some (shown _)
      split
      · rw [hf]
      · rw [shown_shown]

theorem shownIn_shownIn (world : InputDirectory) : shownIn (shownIn world) = shownIn world := by
  simp [shownIn, Function.comp_def, shown_shown]

/-- **What is shown after a change** depends only on what was shown before. -/
theorem shownIn_apply (world : InputDirectory) (c : Change) :
    shownIn (c.apply (shownIn world)) = shownIn (c.apply world) := by
  cases c with
  | plug name device =>
      simp [Change.apply, InputDirectory.plug, InputDirectory.putNode, InputDirectory.removeNode,
        shownIn, Function.comp_def, shown_shown]
  | unplug name =>
      have hnumber : (shownIn world).numberOf? name = world.numberOf? name := rfl
      rw [Change.apply, Change.apply, InputDirectory.unplug, InputDirectory.unplug,
        InputDirectory.updateDevice, InputDirectory.updateDevice, hnumber]
      cases world.numberOf? name with
      | none => exact congrArg (·.removeNode name) (shownIn_shownIn world)
      | some number =>
          exact congrArg (fun devices => InputDirectory.removeNode { world with devices } name)
            (map_shown_modify (shown_alteration (.refuse _)) world.devices number)
  | put name node => exact congrArg (·.putNode name node) (shownIn_shownIn world)
  | alter number how =>
      exact congrArg (fun devices => { world with devices })
        (map_shown_modify (shown_alteration how) world.devices number)

/-! ## Polls -/

section

variable {d : InputDevice} {c : Connection} {world : InputDirectory} {g : Gamepad} {now : Nat}

theorem readKeys_shown (d : InputDevice) :
    (shown d).readKeys = d.readKeys.map fun _ => d.buttonCodes.filter d.pressed.contains := by
  have hrefusals : (shown d).refusals = d.refusals := rfl
  have hpressed : (shown d).pressed = d.buttonCodes.filter d.pressed.contains := by
    simp only [shown]
  rw [InputDevice.readKeys, InputDevice.readKeys, hrefusals, hpressed]
  split
  · rw [Option.map_none]
  · rw [Option.map_some]

theorem readAxes_shown (d : InputDevice) :
    (shown d).readAxes = d.readAxes.map fun axes => axes.map shownAxis := by
  have hrefusals : (shown d).refusals = d.refusals := rfl
  have haxes : (shown d).axes = d.axes.map shownAxis := rfl
  rw [InputDevice.readAxes, InputDevice.readAxes, hrefusals, haxes, List.isEmpty_map]
  split
  · rfl
  · split <;> rfl

theorem connect?_shown (path : String) (number session : Nat) (d : InputDevice) :
    Connection.connect? path number (shown d) session
      = Connection.connect? path number d session := by
  have hid : (shown d).id = d.id := rfl
  rw [Connection.connect?, Connection.connect?, readAxes_shown, axisCodes_shown,
    buttonCodes_shown, hid]
  cases d.readAxes with
  | none => simp only [Option.map_none, Option.bind_eq_bind, Option.bind_none]
  | some axes =>
      have hlayout : d.axisCodes.filterMap (fun code =>
            (RawAxis.find? (axes.map shownAxis) code).map
              fun axis => (⟨code, axis.range⟩ : AxisLayout))
          = d.axisCodes.filterMap fun code =>
            (RawAxis.find? axes code).map fun axis => (⟨code, axis.range⟩ : AxisLayout) := by
        refine List.filterMap_congr fun code hcode => ?_
        rw [find?_shownAxis (((ascending_axisCodes d).mem_iff code).mp hcode).1]
      simp only [Option.map_some, Option.bind_eq_bind, Option.bind_some, hlayout]

theorem open?_shownIn (world : InputDirectory) (name : String) :
    (shownIn world).open? name = (world.open? name).map fun (number, d) => (number, shown d) := by
  have hnumber : (shownIn world).numberOf? name = world.numberOf? name := rfl
  rw [InputDirectory.open?, InputDirectory.open?, hnumber]
  cases world.numberOf? name with
  | none => rfl
  | some number =>
      show ((shownIn world).device? number).bind _ = ((world.device? number).bind _).map _
      rw [device?_shownIn]
      cases world.device? number with
      | none => rfl
      | some d =>
          show (if d.refusals.gone then none else _)
            = Option.map _ (if d.refusals.gone then none else _)
          split <;> rfl

theorem gamepadsIn_shownIn (world : InputDirectory) :
    gamepadsIn (shownIn world)
      = (gamepadsIn world).map fun (name, number, d) => (name, number, shown d) := by
  have hnames : (shownIn world).eventNames = world.eventNames := rfl
  have hopened : ∀ name, ((shownIn world).open? name).map (fun (number, d) => (name, number, d))
      = ((world.open? name).map fun (number, d) => (name, number, d)).map
        fun (name, number, d) => (name, number, shown d) := by
    intro name
    rw [open?_shownIn]
    cases world.open? name <;> rfl
  rw [gamepadsIn, gamepadsIn, hnames, funext hopened, ← List.map_filterMap, List.filter_map]
  rfl

theorem candidate?_shownIn (g : Gamepad) (world : InputDirectory) :
    g.candidate? (shownIn world)
      = (g.candidate? world).map fun (path, number, d) => (path, number, shown d) := by
  cases hpath : g.path with
  | some path =>
      have hname : (shownIn world).nodeName? path = world.nodeName? path := rfl
      rw [Gamepad.candidate?, Gamepad.candidate?, hpath]
      dsimp only
      rw [hname]
      cases world.nodeName? path with
      | none => rfl
      | some name =>
          show ((shownIn world).open? name).bind _ = ((world.open? name).bind _).map _
          rw [open?_shownIn]
          cases world.open? name <;> rfl
  | none =>
      have hpresence : (shownIn world).presence = world.presence := rfl
      rw [candidate?_eq hpath, candidate?_eq hpath, hpresence, gamepadsIn_shownIn, List.head?_map]
      cases world.presence with
      | missing | file => rfl
      | directory => cases (gamepadsIn world).head? <;> rfl

theorem connect_shownIn (world : InputDirectory) (now : Nat) (g : Gamepad) :
    g.connect (shownIn world) now = g.connect world now := by
  have hattempt : ((g.candidate? (shownIn world)).bind fun found =>
        Connection.connect? found.1 found.2.1 found.2.2 (g.session + 1))
      = (g.candidate? world).bind fun found =>
        Connection.connect? found.1 found.2.1 found.2.2 (g.session + 1) := by
    rw [candidate?_shownIn]
    cases g.candidate? world with
    | none => rfl
    | some found => exact connect?_shown found.1 found.2.1 (g.session + 1) found.2.2
  rw [connect_eq, connect_eq, hattempt]

theorem read?_shownIn (hd : world.device? c.device = some d) (hlaid : LaidOut c d) :
    c.read? (shownIn world) = c.read? world := by
  have hbuttons : c.buttons.map (d.buttonCodes.filter d.pressed.contains).contains
      = c.buttons.map d.pressed.contains := by
    refine List.map_congr_left fun code hcode => ?_
    rw [hlaid.buttons] at hcode
    rw [Bool.eq_iff_iff]
    simp [hcode]
  have haxes : ∀ axes : List RawAxis, c.axes.map (Connection.axisValue (axes.map shownAxis))
      = c.axes.map (Connection.axisValue axes) := by
    intro axes
    refine List.map_congr_left fun layout hlayout => ?_
    have hcode : layout.code ∈ d.axisCodes := by
      rw [← hlaid.axes]
      exact List.mem_map_of_mem hlayout
    rw [Connection.axisValue, Connection.axisValue,
      find?_shownAxis (((ascending_axisCodes d).mem_iff _).mp hcode).1]
  rw [Connection.read?, Connection.read?, device?_shownIn, hd, Option.map_some]
  simp only [Option.bind_eq_bind, Option.bind_some, readKeys_shown, readAxes_shown]
  cases hkeys : d.readKeys with
  | none => rfl
  | some pressed =>
      obtain rfl := pressed_of_readKeys hkeys
      cases d.readAxes with
      | none => simp only [Option.map_some, Option.map_none, Option.bind_some, Option.bind_none]
      | some axes =>
          simp only [Option.map_some, Option.bind_some, hbuttons, haxes]

/-- What a source is connected to is laid out as the connection says. -/
def LaidOutIn (world : InputDirectory) (g : Gamepad) : Prop :=
  ∀ c, g.connection = some c → ∃ d, world.device? c.device = some d ∧ LaidOut c d

theorem laidOutIn_of_none (h : g.connection = none) : LaidOutIn world g :=
  fun c hc => absurd (h.symm.trans hc) (by simp)

theorem LaidOutIn.of_sameDevices {world' : InputDirectory} (h : LaidOutIn world g)
    (hsame : SameDevices world world') : LaidOutIn world' g := by
  intro c hc
  obtain ⟨d, hd, hlaid⟩ := h c hc
  obtain ⟨d', hd', hhardware⟩ := hsame c.device d hd
  exact ⟨d', hd', hlaid.of_hardware hhardware⟩

theorem laidOutIn_attached {p : Poll} (h : LaidOutIn p.world p.before) :
    LaidOutIn p.world p.attached := by
  intro c hc
  rcases connection?_cases hc with hbefore | hopened
  · exact h c hbefore
  · obtain ⟨d, hd, hlaid, _⟩ := laidOut_of_opened? hopened
    exact ⟨d, hd, hlaid⟩

theorem laidOutIn_after {p : Poll} (h : LaidOutIn p.world p.before) :
    LaidOutIn p.world p.after := by
  cases p.sample_cases with
  | idle _ _ hafter | read _ _ _ hafter => rw [hafter]; exact laidOutIn_attached h
  | lost _ _ hnone => exact laidOutIn_of_none (Poll.connection_of_no_reading hnone)

/-- **A source cannot tell devices from what is shown of them.** -/
theorem poll_shownIn (h : LaidOutIn world g) (now : Nat) :
    g.poll (shownIn world) now = g.poll world now := by
  have hattached : (if g.wantsToConnect now then g.connect (shownIn world) now else g)
      = if g.wantsToConnect now then g.connect world now else g := by
    rw [connect_shownIn]
  have hlaidOut : LaidOutIn world (if g.wantsToConnect now then g.connect world now else g) :=
    laidOutIn_attached (p := ⟨world, now, g⟩) h
  rw [Gamepad.poll, Gamepad.poll, hattached, Gamepad.sample, Gamepad.sample]
  cases hc : (if g.wantsToConnect now then g.connect world now else g).connection with
  | none => rfl
  | some c =>
      obtain ⟨d, hd, hlaid⟩ := hlaidOut c hc
      dsimp only
      rw [read?_shownIn hd hlaid]

end

/-! ## Many polls -/

/-- The devices after what has happened to them. -/
def worldAfter : List SourceEvent → InputDirectory → InputDirectory
  | [], world => world
  | .change c :: events, world => worldAfter events (c.apply world)
  | .poll _ :: events, world => worldAfter events world

/-- The change is only one of things that are not shown: buttons are held as before, and no axis is
moved that is used. -/
structure ChangesHidden (world : InputDirectory) (number : Nat) (pressed : Option (List Nat))
    (values : List (Nat × Int)) : Prop where
  keys : ∀ held d, pressed = some held → world.device? number = some d →
    ∀ code, IsButton d code → (code ∈ held ↔ code ∈ d.pressed)
  axes : ∀ m ∈ values, lastAxis < m.1

/-- A hidden change shows nothing. -/
theorem shownIn_of_hidden {world : InputDirectory} {number : Nat} {pressed : Option (List Nat)}
    {values : List (Nat × Int)} (h : ChangesHidden world number pressed values) :
    shownIn ((Change.alter number (.state pressed values)).apply world) = shownIn world := by
  refine congrArg (fun devices => { world with devices }) (List.ext_getElem? fun i => ?_)
  show ((world.devices.modify number _).map shown)[i]? = (world.devices.map shown)[i]?
  rw [List.getElem?_map, List.getElem?_map, List.getElem?_modify]
  cases hd : world.devices[i]? with
  | none => rfl
  | some d =>
      by_cases hi : number = i
      · subst hi
        have hsame : shown (d.change pressed values) = shown d :=
          shown_change_of_hidden (fun held heq => h.keys held d heq hd) h.axes
        show some (shown (if number = number then d.change pressed values else d)) = some (shown d)
        rw [if_pos rfl, hsame]
      · show some (shown (if number = i then d.change pressed values else d)) = some (shown d)
        rw [if_neg hi]

/-- Where the same is shown, the same is read, whatever happens then. -/
theorem readings_of_shownIn : ∀ (events : List SourceEvent) {world world' : InputDirectory}
    {g : Gamepad}, shownIn world = shownIn world' → LaidOutIn world g → LaidOutIn world' g →
      (polls events world g).map Poll.reading = (polls events world' g).map Poll.reading := by
  intro events
  induction events with
  | nil => exact fun _ _ _ => rfl
  | cons event events ih =>
      intro world world' g hshown hlaidOut hlaidOut'
      cases event with
      | change c =>
          refine ih ?_ (hlaidOut.of_sameDevices (sameDevices_apply world c))
            (hlaidOut'.of_sameDevices (sameDevices_apply world' c))
          rw [← shownIn_apply, hshown, shownIn_apply]
      | poll now =>
          have hpoll : g.poll world now = g.poll world' now := by
            rw [← poll_shownIn hlaidOut, hshown, poll_shownIn hlaidOut']
          have hafter := laidOutIn_after (p := ⟨world, now, g⟩) hlaidOut
          have hafter' := laidOutIn_after (p := ⟨world', now, g⟩) hlaidOut'
          have hreading : (⟨world, now, g⟩ : Poll).reading = (⟨world', now, g⟩ : Poll).reading :=
            congrArg Prod.snd hpoll
          have hafters : (⟨world, now, g⟩ : Poll).after = (⟨world', now, g⟩ : Poll).after :=
            congrArg Prod.fst hpoll
          have hrest := ih hshown hafter (hafters ▸ hafter')
          rw [polls, polls, List.map_cons, List.map_cons, hreading, ← hpoll]
          exact congrArg _ hrest

/-- **A hidden change changes no reading**, at whatever time it comes. -/
theorem readings_of_hidden {back : List SourceEvent} {number : Nat} {pressed : Option (List Nat)}
    {values : List (Nat × Int)} : ∀ {front : List SourceEvent} {world : InputDirectory}
    {g : Gamepad}, LaidOutIn world g →
      ChangesHidden (worldAfter front world) number pressed values →
      (polls (front ++ .change (.alter number (.state pressed values)) :: back) world g).map
          Poll.reading
        = (polls (front ++ back) world g).map Poll.reading := by
  intro front
  induction front with
  | nil =>
      intro world g hlaidOut hhidden
      exact readings_of_shownIn back (shownIn_of_hidden hhidden)
        (hlaidOut.of_sameDevices (sameDevices_apply world _)) hlaidOut
  | cons event front ih =>
      intro world g hlaidOut hhidden
      cases event with
      | change c => exact ih (hlaidOut.of_sameDevices (sameDevices_apply world c)) hhidden
      | poll now =>
          exact congrArg ((⟨world, now, g⟩ : Poll).reading :: ·)
            (ih (laidOutIn_after (p := ⟨world, now, g⟩) hlaidOut) hhidden)

/--
**A reading is the state of the device by its layout.**

Whatever happens among the devices, and whenever the source is polled:

- Every reading was made through a connection that some poll of the source opened, and from the
  device to which it was opened. Its places of buttons stand for the codes of the buttons in
  ascending order, and show exactly those as pressed that are held now. Its places of axes stand for
  the codes of the axes that are used in ascending order, and show the present values on the scales
  that the axes had when the connection was opened.
- If something changes only in which keys are held that are no buttons of the device, and in the
  values of axes that are not used, all readings stay what they are without the change.
-/
theorem reading_of_layout (path : Option String) (rescanInterval : Nat) (world : InputDirectory)
    (events : List SourceEvent) :
    let ps := polls events world (.start path rescanInterval)
    (∀ q ∈ ps, ∀ r, q.reading = some r → ∃ p ∈ ps, ∃ c rest now, p.opened? = some c
        ∧ q.connection? = some c ∧ p.world.device? c.device = some rest
        ∧ q.world.device? c.device = some now ∧ hardware now = hardware rest
        ∧ Reflects rest now r)
      ∧ ∀ front back number pressed values, events = front ++ back →
        ChangesHidden (worldAfter front world) number pressed values →
        (polls (front ++ .change (.alter number (.state pressed values)) :: back) world
            (.start path rescanInterval)).map Poll.reading
          = ps.map Poll.reading := by
  intro ps
  have hrun : Successive world (.start path rescanInterval) ps := successive_polls events world _
  have hsettled : Settled world (.start path rescanInterval) := settled_of_none rfl
  refine ⟨?_, ?_⟩
  · intro q hq r hr
    obtain ⟨c, hc, hread, _⟩ := Poll.connection_of_reading hr
    obtain ⟨front, back, hps⟩ := List.append_of_mem hq
    obtain ⟨p, hp, hopened⟩ := exists_opened_of_connection? (hps ▸ hrun) hc rfl
    rw [← hps] at hp
    obtain ⟨rest, hrest, hlaid, hscaled⟩ := laidOut_of_opened? hopened
    obtain ⟨now, hnow, hsame⟩ :=
      sameDevices_of_opened hrun hsettled hp hq hopened hc c.device rest hrest
    exact ⟨p, hp, c, rest, now, hopened, hc, hrest, hnow, hsame,
      reflects_of_read? hlaid hscaled hsame hnow hread⟩
  · intro front back number pressed values hevents hhidden
    rw [readings_of_hidden (laidOutIn_of_none rfl) hhidden, ← hevents]

/-- A gamepad with a key below the first button and an axis behind the last one that is used. -/
def crammedPad : InputDevice :=
  ⟨[], 0x054c, 0x0ce6, [southButton, 0xff, firstButton],
    [⟨0x18, 0, 0, 255⟩, ⟨lastAxis, 0, 0, 255⟩], [], .none⟩

/-- The gamepad is plugged in and its first button is pressed. -/
def firstButtonHeld : List SourceEvent :=
  [.change (.plug "event0" crammedPad),
    .change (.alter 0 (.state (some [firstButton]) [(lastAxis, 255)]))]

/-- Held are the button, a key that is no button, and another one that the gamepad does not have. -/
def hiddenKeys : List Nat := [0xff, firstButton, 0x131]

theorem changesHidden_crammedPad :
    ChangesHidden (worldAfter firstButtonHeld (.empty .directory)) 0 (some hiddenKeys)
      [(0x18, 200)] := by
  refine ⟨?_, by decide⟩
  intro held d hheld hd code hcode
  injection hheld with hheld
  injection hd with hd
  subst hheld hd
  obtain ⟨hfirst, _, hkeys⟩ := hcode
  have hmem : code ∈ [southButton, 0xff, firstButton] := hkeys
  simp only [List.mem_cons, List.not_mem_nil, or_false] at hmem
  rcases hmem with rfl | rfl | rfl
  · exact iff_of_false (by decide) (by decide)
  · exact absurd hfirst (by decide)
  · exact iff_of_true (by decide) (by decide)

/-- The first of its two places of buttons shows the button that is held, and its only place of axes
the axis that is used. Pressing the key that is no button, and one that the gamepad does not have,
changes no reading, nor does moving the other axis. -/
theorem reading_of_crammed_pad :
    let g := Gamepad.start (some "/dev/input/event0") 0
    ∃ q r, polls (firstButtonHeld ++ [.poll 0]) (.empty .directory) g = [q]
      ∧ q.reading = some r ∧ r.buttons = [true, false] ∧ (∃ rest now, Reflects rest now r)
      ∧ ChangesHidden (worldAfter firstButtonHeld (.empty .directory)) 0 (some hiddenKeys)
        [(0x18, 200)]
      ∧ (polls (firstButtonHeld ++ .change (.alter 0 (.state (some hiddenKeys) [(0x18, 200)]))
            :: [.poll 0]) (.empty .directory) g).map Poll.reading = [some r] := by
  intro g
  obtain ⟨hreflects, hsame⟩ := reading_of_layout (some "/dev/input/event0") 0 (.empty .directory)
    (firstButtonHeld ++ [.poll 0])
  obtain ⟨q, r, hpolls, hr, hbuttons⟩ : ∃ q r,
      polls (firstButtonHeld ++ [.poll 0]) (.empty .directory) g = [q]
        ∧ q.reading = some r ∧ r.buttons = [true, false] :=
    ⟨_, _, rfl, rfl, by decide +kernel⟩
  obtain ⟨_, _, _, rest, now, _, _, _, _, _, hshows⟩ :=
    hreflects q (by rw [hpolls]; exact List.mem_cons_self) r hr
  refine ⟨q, r, hpolls, hr, hbuttons, ⟨rest, now, hshows⟩, changesHidden_crammedPad, ?_⟩
  rw [hsame firstButtonHeld [.poll 0] 0 _ _ rfl changesHidden_crammedPad, hpolls,
    List.map_singleton, hr]

end PadMapping.Proofs
