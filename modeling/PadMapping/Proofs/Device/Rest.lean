import PadMapping.Proofs.Binary.Whole
import PadMapping.Proofs.Device.Layout
import PadMapping.Proofs.Reading

/-!
# Axes at rest

An axis that is found at its least value when its device is opened is taken for a trigger at rest
if that value is not negative, and for a stick that is held to one side otherwise. What it was taken
for stays as long as the connection does.

So a trigger that is released reads as zero, and does not keep a reading from being neutral. An axis
with a negative least value reads as -1 there, which is past every threshold, and no reading is
neutral as long as it rests.
-/

namespace PadMapping.Proofs

open Binary

/-! ## The scale at its lower end -/

/-- The range of an axis as devices report it: its ends are 32-bit integers, and they differ as
32-bit floating-point numbers too. -/
structure Ranged (range : AxisRange) : Prop where
  least : -2 ^ 31 ≤ range.least
  greatest : range.greatest < 2 ^ 31
  lt : range.least < range.greatest
  rounded_lt : (Binary.ofInt range.least : Single).lt (.ofInt range.greatest) = true

/-- The lower end of the scale. -/
theorem normalize_of_le {range : AxisRange} (h : Ranged range) {value : Int}
    (hvalue : value ≤ range.least) :
    range.normalize value = if range.unipolar then .number 0 else .number (-1) := by
  obtain ⟨hleast, hgreatest, hlt, hrounded⟩ := h
  have hinside : max range.least (min value range.greatest) = range.least := by omega
  obtain ⟨low, hlow, hlowSize, _⟩ := ofInt_eq_number (n := range.least) (by rw [abs_le]; omega)
  obtain ⟨high, hhigh, hhighSize, _⟩ :=
    ofInt_eq_number (n := range.greatest) (by rw [abs_le]; omega)
  rw [hlow, hhigh, Binary.lt, decide_eq_true_iff] at hrounded
  have hlowHigh : low < high := by exact_mod_cast hrounded
  obtain ⟨span, hspan, hspanPos⟩ := sub_number hlowHigh (by
    rw [abs_le] at hlowSize hhighSize ⊢
    have hleast' : |range.least| ≤ 2 ^ 31 := by rw [abs_le]; omega
    have hgreatest' : |range.greatest| ≤ 2 ^ 31 := by rw [abs_le]; omega
    omega)
  have hscale : ((Binary.number 0 : Single).mul (.ofInt 2)).sub (.ofInt 1) = .number (-1) := by
    decide +kernel
  rw [AxisRange.normalize, if_neg (by omega)]
  simp only [hinside, hlow, hhigh, sub_self_number, hspan]
  rw [zero_div_number (by exact_mod_cast hspanPos), hscale]

/-! ## Thresholds -/

/-- A threshold that an axis can be past, and can be not past. -/
structure Between (threshold : Single) : Prop where
  pos : (Binary.number 0).lt threshold = true
  lt_one : threshold.lt (.number 1) = true

theorem Between.exists_number {threshold : Single} (h : Between threshold) :
    ∃ t, threshold = .number t ∧ 0 < t ∧ t < 1 := by
  obtain ⟨hpos, hlt⟩ := h
  cases threshold with
  | nan => exact absurd hpos (by simp [Binary.lt])
  | infinity negative => cases negative <;> simp [Binary.lt] at hpos hlt
  | negativeZero => exact absurd hpos (by simp [Binary.lt])
  | number t => exact ⟨t, rfl, by simpa [Binary.lt] using hpos, by simpa [Binary.lt] using hlt⟩

/-- An axis at zero is not past any threshold. -/
theorem deflection?_zero {threshold : Single} (h : Between threshold) :
    deflection? threshold (.number 0) = none := by
  obtain ⟨t, rfl, hpos, _⟩ := h.exists_number
  have hnot : ¬ t < 0 := by linarith
  simp [deflection?, Binary.lt, Binary.neg, hpos.ne', hnot]

/-- An axis at its far end is past every threshold. -/
theorem deflection?_minusOne {threshold : Single} (h : Between threshold) :
    deflection? threshold (.number (-1)) = some .negative := by
  obtain ⟨t, rfl, hpos, hlt⟩ := h.exists_number
  have hnot : ¬ t < -1 := by linarith
  simp [deflection?, Binary.lt, Binary.neg, hpos.ne', hnot, hlt]

/-! ## The axes of a connection -/

section

variable {d : InputDevice} {c : Connection}

/-- Every axis of the device that is used has its place among the axes of the connection, with the
scale that it had when the connection was made. -/
theorem exists_layout {path : String} {number session : Nat} {axis : RawAxis}
    (h : Connection.connect? path number d session = some c)
    (hfind : RawAxis.find? d.axes axis.code = some axis) (hcode : axis.code ≤ lastAxis) :
    ∃ i : Nat, c.axes[i]? = some ⟨axis.code, axis.range⟩ := by
  obtain ⟨hlaid, hscaled⟩ := laidOut_of_connect? h
  have hmem : axis.code ∈ c.axes.map (·.code) := by
    rw [hlaid.axes]
    exact ((ascending_axisCodes d).mem_iff _).mpr ⟨hcode, exists_find?_iff.mp ⟨axis, hfind⟩⟩
  obtain ⟨layout, hlayout, hsame⟩ := List.mem_map.mp hmem
  obtain ⟨axis', hfind', hrange⟩ := hscaled layout hlayout
  rw [hsame, hfind] at hfind'
  injection hfind' with haxis
  subst haxis
  have heq : layout = ⟨axis.code, axis.range⟩ := by rw [← hsame, ← hrange]
  exact List.getElem?_of_mem (heq ▸ hlayout)

/-- The axes of a reading, by the layout of the connection and the present state of the device. -/
theorem axes_of_read? {world : InputDirectory} {r : Reading} (h : c.read? world = some r) :
    ∃ d, world.device? c.device = some d ∧ r.axes = c.axes.map (Connection.axisValue d.axes) := by
  obtain ⟨d, hd, _, _, haxes⟩ := read?_eq_some h
  exact ⟨d, hd, haxes⟩

/-- The same hardware has the same axes. -/
theorem find?_of_hardware {d' : InputDevice} {axis : RawAxis} {code : Nat}
    (h : hardware d' = hardware d) (hfind : RawAxis.find? d.axes code = some axis) :
    ∃ raw, RawAxis.find? d'.axes code = some raw := by
  rw [exists_find?_iff, codes_of_hardware h]
  exact exists_find?_iff.mp ⟨axis, hfind⟩

end

/-! ## Axes at their least value -/

/-- The poll opens a connection to a device with this axis, which rests at its least value. -/
structure OpensAtRest (p : Poll) (c : Connection) (axis : RawAxis) : Prop where
  opened : p.opened? = some c
  device : ∃ d, p.world.device? c.device = some d ∧ RawAxis.find? d.axes axis.code = some axis
  code : axis.code ≤ lastAxis
  ranged : Ranged axis.range
  rest : axis.value = axis.least

/-- How a reading shows, at its place `i`, an axis that is at its least value again. -/
structure ShowsRest (r : Reading) (i : Nat) (least : Int) : Prop where
  /-- An axis without negative values reads as zero. -/
  zero : 0 ≤ least → r.axes[i]? = some (.number 0)
  /-- It does not matter then for whether the reading is neutral. -/
  neutral : 0 ≤ least → ∀ threshold, Between threshold →
    (r.isNeutral threshold = true ↔ (∀ b ∈ r.buttons, b = false)
      ∧ ∀ j x, j ≠ i → r.axes[j]? = some x → deflection? threshold x = none)
  /-- Any other axis reads as pushed all the way. -/
  pushed : least < 0 → r.axes[i]? = some (.number (-1))
  /-- So the reading is not neutral. -/
  active : least < 0 → ∀ threshold, Between threshold → r.isNeutral threshold = false

theorem showsRest_of_axes {r : Reading} {i : Nat} {least : Int}
    (h : r.axes[i]? = some (if 0 ≤ least then .number 0 else .number (-1))) :
    ShowsRest r i least where
  zero := by
    intro hleast
    rwa [if_pos hleast] at h
  neutral := by
    intro hleast threshold hthreshold
    rw [if_pos hleast] at h
    rw [isNeutral_iff, and_congr_right_iff]
    intro _
    constructor
    · exact fun hall j x _ hx => hall x (List.mem_of_getElem? hx)
    · intro hothers x hx
      obtain ⟨j, hj⟩ := List.getElem?_of_mem hx
      by_cases hji : j = i
      · rw [hji, h] at hj
        injection hj with hj
        rw [← hj]
        exact deflection?_zero hthreshold
      · exact hothers j x hji hj
  pushed := by
    intro hleast
    rwa [if_neg (by omega)] at h
  active := by
    intro hleast threshold hthreshold
    rw [if_neg (by omega)] at h
    rw [Bool.eq_false_iff]
    intro hneutral
    have hnone := (isNeutral_iff.mp hneutral).2 _ (List.mem_of_getElem? h)
    rw [deflection?_minusOne hthreshold] at hnone
    exact absurd hnone (by simp)

/--
**A trigger that is released reads as zero.**

An axis that rests at its least value when a connection to its device is opened has a place in all
readings that are made through the connection. Whenever its value is the least one again, or below
it, it reads there as zero if the least value is not negative, and does not matter for whether the
reading is neutral. An axis whose least value is negative reads as -1 then, and no reading is
neutral.
-/
theorem reading_of_rest {path : Option String} {rescanInterval : Nat} {world : InputDirectory}
    {events : List SourceEvent} {p q : Poll} {c : Connection} {axis : RawAxis} {r : Reading}
    (hp : p ∈ polls events world (.start path rescanInterval))
    (hq : q ∈ polls events world (.start path rescanInterval))
    (hopens : OpensAtRest p c axis) (hc : q.connection? = some c) (hr : q.reading = some r) :
    ∃ i d raw, c.axes[i]? = some ⟨axis.code, axis.range⟩
      ∧ q.world.device? c.device = some d ∧ RawAxis.find? d.axes axis.code = some raw
      ∧ (raw.value ≤ axis.least → ShowsRest r i axis.least) := by
  obtain ⟨hopened, ⟨d₀, hd₀, hfind⟩, hcode, hranged, hrest⟩ := hopens
  -- the layout was settled when the connection was opened
  obtain ⟨i, hi⟩ : ∃ i : Nat, c.axes[i]? = some ⟨axis.code, axis.range⟩ := by
    obtain ⟨_, path, number, d, hcandidate, hconnect⟩ := Poll.connects_of_opened? hopened
    rw [(connect?_eq hconnect).1, device?_of_candidate? hcandidate] at hd₀
    injection hd₀ with hd₀
    subst hd₀
    exact exists_layout hconnect hfind hcode
  -- the device that is read now is the one that was opened
  have hrun := successive_polls events world (.start path rescanInterval)
  obtain ⟨d, hd, hhardware⟩ :=
    sameDevices_of_opened hrun (settled_of_none rfl) hp hq hopened hc c.device d₀ hd₀
  obtain ⟨raw, hraw⟩ := find?_of_hardware hhardware hfind
  refine ⟨i, d, raw, hi, hd, hraw, ?_⟩
  intro hvalue
  obtain ⟨c', hc', hread, _⟩ := Poll.connection_of_reading hr
  rw [hc] at hc'
  injection hc' with hc'
  subst hc'
  obtain ⟨d', hd', haxes⟩ := axes_of_read? hread
  rw [hd] at hd'
  injection hd' with hd'
  subst hd'
  apply showsRest_of_axes
  have hunipolar : axis.range.unipolar = decide (0 ≤ axis.least) := by simp [RawAxis.range, hrest]
  have hscaled : axis.range.normalize raw.value
      = if 0 ≤ axis.least then .number 0 else .number (-1) := by
    rw [normalize_of_le hranged hvalue, hunipolar]
    simp only [decide_eq_true_eq]
  rw [haxes, List.getElem?_map, hi, Option.map_some, Connection.axisValue, hraw]
  exact congrArg some hscaled

/-- A gamepad with one axis, which is at its least value. -/
def triggerPad (least greatest : Int) : InputDevice :=
  ⟨[], 0x054c, 0x0ce6, [southButton], [⟨2, least, least, greatest⟩], [], .none⟩

/-- The gamepad is plugged in, its axis is pushed and then released to where it was. -/
def pushedAndReleased (least greatest : Int) : List SourceEvent :=
  [.change (.plug "event0" (triggerPad least greatest)), .poll 0,
    .change (.alter 0 (.state none [(2, greatest)])), .poll 50,
    .change (.alter 0 (.state none [(2, least)])), .poll 100]

theorem reading_of_released_trigger : ∃ p m q c r i,
    polls (pushedAndReleased 0 255) (.empty .directory) (.start (some "/dev/input/event0") 0)
        = [p, m, q]
      ∧ OpensAtRest p c ⟨2, 0, 0, 255⟩ ∧ q.connection? = some c ∧ q.reading = some r
      ∧ ShowsRest r i 0 := by
  have hranged : Ranged (⟨2, 0, 0, 255⟩ : RawAxis).range :=
    ⟨by decide, by decide, by decide, by decide +kernel⟩
  obtain ⟨p, m, q, c, r, hpolls, hopens, hc, hr, hvalue⟩ : ∃ p m q c r,
      polls (pushedAndReleased 0 255) (.empty .directory) (.start (some "/dev/input/event0") 0)
          = [p, m, q]
        ∧ OpensAtRest p c ⟨2, 0, 0, 255⟩ ∧ q.connection? = some c ∧ q.reading = some r
        ∧ (q.world.device? c.device).bind (RawAxis.find? ·.axes 2) = some ⟨2, 0, 0, 255⟩ :=
    ⟨_, _, _, _, _, rfl, ⟨rfl, ⟨_, rfl, rfl⟩, by decide, hranged, rfl⟩, rfl, rfl, rfl⟩
  obtain ⟨i, d, raw, _, hd, hraw, hrest⟩ :=
    reading_of_rest (hpolls ▸ List.mem_cons_self) (hpolls ▸ by simp) hopens hc hr
  rw [hd, Option.bind_some, hraw] at hvalue
  injection hvalue with hvalue
  exact ⟨p, m, q, c, r, i, hpolls, hopens, hc, hr, hrest (by rw [hvalue])⟩

/-- A stick that is found at its least value and let go there reads as pushed all the way. -/
theorem active_of_released_stick : ∃ p m q c r,
    polls (pushedAndReleased (-128) 127) (.empty .directory) (.start (some "/dev/input/event0") 0)
        = [p, m, q]
      ∧ OpensAtRest p c ⟨2, -128, -128, 127⟩ ∧ q.connection? = some c ∧ q.reading = some r
      ∧ (q.world.device? c.device).bind (RawAxis.find? ·.axes 2) = some ⟨2, -128, -128, 127⟩
      ∧ r.axes = [.number (-1)] ∧ r.isNeutral defaultThreshold = false := by
  have hranged : Ranged (⟨2, -128, -128, 127⟩ : RawAxis).range :=
    ⟨by decide, by decide, by decide, by decide +kernel⟩
  refine ⟨_, _, _, _, _, rfl, ⟨rfl, ⟨_, rfl, rfl⟩, by decide, hranged, rfl⟩, rfl, rfl, rfl, ?_, ?_⟩
  · decide +kernel
  · decide +kernel

end PadMapping.Proofs
