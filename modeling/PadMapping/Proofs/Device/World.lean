import PadMapping.Device.Input

/-!
# What happens to devices

Devices are plugged in and unplugged, nodes come to stand for other things, keys are pressed,
requests begin to be refused and are answered again. All this happens between polls and is not
under the control of whoever polls.

One thing can be relied on. A device keeps its number, and it stays what it is: whoever has opened
a device finds the same hardware under its number whatever has happened since, although the node by
which it was opened may be gone or may stand for another device.
-/

namespace PadMapping.Proofs

/-- How the state of one device changes. -/
inductive Alteration where
  /-- These keys are held, if given, and these axes are moved. -/
  | state (pressed : Option (List Nat)) (values : List (Nat × Int))
  | refuse (more : Refusals)
  | repair
deriving DecidableEq, Repr

/-- The device in its new state. -/
def Alteration.apply : Alteration → InputDevice → InputDevice
  | .state pressed values => .change pressed values
  | .refuse more => .refuse more
  | .repair => .repair

/-- What happens among the devices. -/
inductive Change where
  | plug (name : String) (device : InputDevice)
  | unplug (name : String)
  /-- A node of this name comes to be, in place of any other. -/
  | put (name : String) (node : InputNode)
  /-- The device with this number changes, whether it still has a node or not. -/
  | alter (number : Nat) (how : Alteration)
deriving DecidableEq, Repr

/-- The input directory after a change. -/
def Change.apply (world : InputDirectory) : Change → InputDirectory
  | .plug name device => world.plug name device
  | .unplug name => world.unplug name
  | .put name node => world.putNode name node
  | .alter number how => { world with devices := world.devices.modify number how.apply }

/-! ## What stays -/

/-- A device apart from its state. -/
def hardware (d : InputDevice) : InputDevice :=
  { d with axes := d.axes.map ({ · with value := 0 }), pressed := [], refusals := .none }

theorem hardware_moveAxis (d : InputDevice) (code : Nat) (value : Int) :
    hardware (d.moveAxis code value) = hardware d := by
  have haxis : ∀ axis : RawAxis,
      { (if axis.code = code then { axis with value } else axis) with value := 0 }
        = { axis with value := 0 } := by
    intro axis
    split <;> rfl
  simp [hardware, InputDevice.moveAxis, Function.comp_def, haxis]

theorem hardware_change (pressed : Option (List Nat)) (values : List (Nat × Int))
    (d : InputDevice) : hardware (d.change pressed values) = hardware d := by
  have hmoves : ∀ (values : List (Nat × Int)) (d : InputDevice),
      hardware (values.foldl (fun d p => d.moveAxis p.1 p.2) d) = hardware d := by
    intro values
    induction values with
    | nil => exact fun _ => rfl
    | cons p values ih =>
        intro d
        rw [List.foldl_cons, ih, hardware_moveAxis]
  exact hmoves values { d with pressed := pressed.getD d.pressed }

theorem hardware_alteration (how : Alteration) (d : InputDevice) :
    hardware (how.apply d) = hardware d := by
  cases how with
  | state pressed values => exact hardware_change pressed values d
  | refuse | repair => rfl

/-- Every device of the first directory is the same hardware in the second. -/
def SameDevices (world world' : InputDirectory) : Prop :=
  ∀ n d, world.device? n = some d → ∃ d', world'.device? n = some d' ∧ hardware d' = hardware d

namespace SameDevices

theorem refl (world : InputDirectory) : SameDevices world world :=
  fun _ d h => ⟨d, h, rfl⟩

theorem trans {a b c : InputDirectory} (hab : SameDevices a b) (hbc : SameDevices b c) :
    SameDevices a c := by
  intro n d h
  obtain ⟨d₁, h₁, heq₁⟩ := hab n d h
  obtain ⟨d₂, h₂, heq₂⟩ := hbc n d₁ h₁
  exact ⟨d₂, h₂, heq₂.trans heq₁⟩

/-- A device may change as long as it stays the same hardware. -/
theorem modify (world : InputDirectory) (number : Nat) {f : InputDevice → InputDevice}
    (hf : ∀ d, hardware (f d) = hardware d) :
    SameDevices world { world with devices := world.devices.modify number f } := by
  intro n d h
  rw [InputDirectory.device?] at h
  by_cases hn : number = n
  · exact ⟨f d, by simp [InputDirectory.device?, hn, h], hf d⟩
  · exact ⟨d, by simp [InputDirectory.device?, hn, h], rfl⟩

end SameDevices

/-- **Devices stay what they are**, whatever happens. -/
theorem sameDevices_apply (world : InputDirectory) (c : Change) :
    SameDevices world (c.apply world) := by
  cases c with
  | plug name device =>
      intro n d h
      rw [InputDirectory.device?] at h
      have hlt : n < world.devices.length := (List.getElem?_eq_some_iff.mp h).1
      refine ⟨d, ?_, rfl⟩
      show (world.devices ++ [device])[n]? = some d
      rw [List.getElem?_append_left hlt, h]
  | unplug name =>
      show SameDevices world ((world.updateDevice name _).removeNode name)
      rw [InputDirectory.updateDevice]
      cases world.numberOf? name with
      | none => exact .refl world
      | some number => exact .modify world number fun _ => rfl
  | put name node => exact .refl world
  | alter number how => exact .modify world number (hardware_alteration how)

end PadMapping.Proofs
