import PadMapping.Proofs.Device.Ids
import PadMapping.Proofs.Export.Store
import PadMapping.Proofs.Reading
import PadMapping.Proofs.Snippet.Places
import PadMapping.Proofs.View.Origin
import PadMapping.Proofs.View.Sound
import PadMapping.Snippet.Printer

/-!
# Whatever a session produces is accepted

An export goes from the view into a file, and from there into the snippets. Nothing that a view on
the standard steps can come to is refused on the way: its controls have indices that can be read
back, its steps have places of their own in the generated code, and the id of its device can be read.
-/

namespace PadMapping.Proofs

open View Snippet

/-! ## Indices that a reading shows -/

/-- The buttons and axes of a reading can be counted. -/
structure Countable (r : Reading) : Prop where
  buttons : r.buttons.length ≤ Text.wordBound
  axes : r.axes.length ≤ Text.wordBound

theorem controlIndex_of_active? {r : Reading} {threshold : Single} {control : Control}
    (hr : Countable r) (h : r.active? threshold = some control) :
    controlIndex control < Text.wordBound := by
  cases control with
  | button i =>
      have hfirst := activeControl?_eq_button_iff.mp h
      exact Nat.lt_of_lt_of_le hfirst.lt_length hr.buttons
  | axis i direction =>
      obtain ⟨_, hfirst, _⟩ := activeControl?_eq_axis_iff.mp h
      exact Nat.lt_of_lt_of_le hfirst.lt_length hr.axes

/-! ## Places with a slot -/

/-- The place of the step has a slot in the generated code. -/
def HasSlot (a : Assignment) : Prop := a.step.index < slotCount a.step.target

theorem hasSlot_of_assign {m m' : Mapper} {a : Assignment} (h : m.assign a = .ok m') :
    HasSlot a := by
  rcases assign_cases h with ⟨slot, htarget, hslot, _⟩ | ⟨slot, htarget, hslot, _⟩
  · rw [HasSlot, htarget, ← hslot]
    exact slot.index_lt
  · rw [HasSlot, htarget, ← hslot]
    exact slot.index_lt

theorem assign_of_hasSlot {m : Mapper} {a : Assignment} (h : HasSlot a) :
    ∃ m', m.assign a = .ok m' := by
  have hslot : ∀ {target : Target} (hindex : a.step.index < slotCount target),
      Slot.ofIndex? target a.step.index = some ⟨a.step.index, hindex⟩ :=
    fun hindex => dif_pos hindex
  rw [HasSlot] at h
  rw [Mapper.assign]
  cases htarget : a.step.target with
  | button | axis =>
      rw [htarget] at h
      simp only [hslot h]
      exact ⟨_, rfl⟩

/-- **A mapper function can be made exactly if all places have slots**, whatever stands for them. -/
theorem ofExport_ok_iff {e : Export} :
    (∃ m, Mapper.ofExport e = .ok m) ↔ ∀ a ∈ e.assignments, HasSlot a := by
  constructor
  · rintro ⟨m, hm⟩
    refine ofExport_induction (P := fun done _ => ∀ a ∈ done, HasSlot a) (by simp) ?_ hm
    intro done m m' a hdone hassign b hb
    rcases List.mem_append.mp hb with hb | hb
    · exact hdone b hb
    · rw [List.mem_singleton.mp hb]
      exact hasSlot_of_assign hassign
  · intro hall
    have hfold : ∀ (rest : List Assignment) (m₀ : Mapper), (∀ a ∈ rest, HasSlot a) →
        ∃ m, rest.foldlM Mapper.assign m₀ = .ok m := by
      intro rest
      induction rest with
      | nil => exact fun m₀ _ => ⟨m₀, rfl⟩
      | cons a rest ih =>
          intro m₀ hrest
          obtain ⟨m₁, hm₁⟩ := assign_of_hasSlot (m := m₀) (hrest a List.mem_cons_self)
          rw [List.foldlM_cons, hm₁]
          exact ih m₁ fun b hb => hrest b (List.mem_cons_of_mem _ hb)
    exact hfold e.assignments .identity hall

/-! ## Exports of a view -/

section

variable {σ : Type} {out : Outlet σ} {options : Options} {h : History σ}

/-- The steps of an export are those that the view began with. -/
theorem step_of_export {steps : List Step} {deviceId : String}
    (hr : Reachable out (fresh steps options) h) {a : Assignment}
    (ha : a ∈ (Export.ofSession deviceId h.view.session).assignments) : a.step ∈ steps := by
  rw [← (sound_reachable hr).steps]
  exact List.mem_map_of_mem ha

theorem hasSlot_of_standardSteps : ∀ step ∈ standardSteps, step.index < slotCount step.target := by
  decide

theorem index_of_standardSteps : ∀ step ∈ standardSteps, step.index < Text.wordBound := by
  decide

/-- Every control was shown by a reading that was polled. -/
theorem control_of_export {steps : List Step} {deviceId : String}
    (hr : Reachable out (fresh steps options) h) {a : Assignment} {control : Control}
    (ha : a ∈ (Export.ofSession deviceId h.view.session).assignments)
    (hcontrol : a.control = some control) :
    ∃ m ∈ h.past, ∃ r, m.call = .tick (some r) ∧ r.active? options.threshold = some control := by
  obtain ⟨i, hi⟩ := List.getElem?_of_mem ha
  have hresult : resultAt h.view.session i = some control := by
    have hi' : h.view.session.assignments[i]? = some a := hi
    rw [resultAt, hi', ← hcontrol]
    rfl
  obtain ⟨r, horigin⟩ := (explained_reachable hr i).origin (by rw [hresult]; rfl)
  obtain ⟨control', hactive, hsame⟩ := (explained_reachable hr i).shown r horigin
  rw [hresult] at hsame
  injection hsame with hsame
  rw [options_reachable hr, ← hsame] at hactive
  obtain ⟨newer, m, older, hpast, ⟨_, hcall, _⟩, _⟩ := horigin
  exact ⟨m, by rw [hpast]; simp, r, hcall, hactive⟩

/-- Everything in an export can be read back. -/
theorem numbered_of_export (deviceId : String)
    (hr : Reachable out (fresh standardSteps options) h)
    (hcount : ∀ m ∈ h.past, ∀ r, m.call = .tick (some r) → Countable r) :
    ∀ a ∈ (Export.ofSession deviceId h.view.session).assignments, Numbered a := by
  intro a ha
  refine ⟨index_of_standardSteps a.step (step_of_export hr ha), ?_⟩
  intro control hcontrol
  obtain ⟨m, hm, r, hcall, hactive⟩ := control_of_export hr ha hcontrol
  exact controlIndex_of_active? (hcount m hm r hcall) hactive

/-- Both snippets can be made of an export if its device has an id of the usual form. -/
theorem snippets_of_export {e : Export} {name : Option String} {vendor product : UInt16}
    (hid : e.deviceId = DeviceId.format name vendor product)
    (hslots : ∀ a ∈ e.assignments, HasSlot a) (mapper : String) :
    ∃ entry function text, tableEntry e mapper = .ok entry
      ∧ mapperFunction e mapper = .ok function ∧ render e mapper = .ok text := by
  obtain ⟨m, hm⟩ := ofExport_ok_iff.mpr hslots
  have hfunction : mapperFunction e mapper = .ok (m.print mapper) := by
    rw [mapperFunction, hm]
  obtain ⟨entry, hentry⟩ : ∃ entry, tableEntry e mapper = .ok entry := by
    rw [tableEntry, hid, parse_format]
    exact ⟨_, rfl⟩
  obtain ⟨text, htext⟩ : ∃ text, render e mapper = .ok text := by
    rw [render, hentry, hfunction]
    exact ⟨_, rfl⟩
  exact ⟨entry, m.print mapper, text, hentry, hfunction, htext⟩

/--
**Whatever a session produces is accepted.**

When a view on the standard steps comes to a result on a device with a formatted id, whatever was
polled and asked for on the way:

- The export can be saved wherever a file can be made, and is loaded as it was.
- Both snippets can be made of it, under every name.
-/
theorem accepted_of_result (hr : Reachable out (fresh standardSteps options) h)
    (hcount : ∀ m ∈ h.past, ∀ r, m.call = .tick (some r) → Countable r)
    {f : Frame} {e : Export} (hf : h.view.frame = .ok f) (he : f.result = some e)
    {name : Option String} {vendor product : UInt16}
    (hid : e.deviceId = DeviceId.format name vendor product) :
    (∀ (folder : String) (now : PadMapping.Moment) (tree : FileTree),
      let outcome := e.save folder now.stamp tree
      (∃ path, outcome.2 = .ok path ∧ Export.load path outcome.1 = .ok e)
        ∨ ∃ fault, outcome.2 = .error fault ∧ Unsaved folder now tree outcome.1 fault)
    ∧ ∀ mapper, ∃ entry function text, tableEntry e mapper = .ok entry
      ∧ mapperFunction e mapper = .ok function ∧ render e mapper = .ok text := by
  obtain ⟨device, _, rfl⟩ := eq_ofSession_of_result hf he
  have hnumbered := numbered_of_export device.id hr hcount
  have hslots : ∀ a ∈ (Export.ofSession device.id h.view.session).assignments, HasSlot a :=
    fun a ha => hasSlot_of_standardSteps a.step (step_of_export hr ha)
  refine ⟨?_, snippets_of_export hid hslots⟩
  intro folder now tree outcome
  rcases saved_or_unsaved _ folder now tree with ⟨path, hpath, hsaved⟩ | hunsaved
  · exact .inl ⟨path, hpath, hsaved.load (.refl _) hnumbered⟩
  · exact .inr hunsaved

end

/-- A device answers the first step with its second button, and then has the session finished. -/
def answeredOnce (device : Identity) : List Call :=
  [.tick (some ⟨device, [false, false], []⟩), .tick (some ⟨device, [false, true], []⟩),
    .apply .done]

theorem accepted_of_answeredOnce :
    let device : Identity := ⟨DeviceId.format (some "Pad (wired)") 0x054c 0x0ce6, 1⟩
    let h := History.ofCalls plainOutlet (fresh standardSteps .standard) () (answeredOnce device)
    ∃ f e, h.view.frame = .ok f ∧ f.result = some e
      ∧ Export.load "maps/mapping-20240501-120000-000.json"
          (e.save "maps" noon.stamp (.empty "/home")).1 = .ok e
      ∧ ∃ entry function text, tableEntry e "Map" = .ok entry
        ∧ mapperFunction e "Map" = .ok function ∧ render e "Map" = .ok text := by
  intro device h
  have hr := reachable_ofCalls plainOutlet (fresh standardSteps .standard) () (answeredOnce device)
  have hcount : ∀ m ∈ h.past, ∀ r, m.call = .tick (some r) → Countable r := by
    intro m hm r hcall
    have hpast : h.past.map (·.call) = (answeredOnce device).reverse := rfl
    have hmem : Call.tick (some r) ∈ (answeredOnce device).reverse := by
      rw [← hpast, ← hcall]
      exact List.mem_map_of_mem hm
    simp only [answeredOnce, List.reverse_cons, List.reverse_nil, List.nil_append, List.cons_append,
      List.mem_cons, List.not_mem_nil, or_false, reduceCtorEq, false_or, Call.tick.injEq,
      Option.some.injEq] at hmem
    rcases hmem with rfl | rfl
    · exact ⟨by decide, by decide⟩
    · exact ⟨by decide, by decide⟩
  have hdevice : h.view.device = some device := by decide +kernel
  have hdone : h.view.session.isDone = true := by decide +kernel
  obtain ⟨f, hf, hresult⟩ := frame_ok h.view
  rw [resultOf, hdevice] at hresult
  simp only [hdone, if_true] at hresult
  obtain ⟨hsave, hsnippets⟩ := accepted_of_result hr hcount hf hresult rfl
  refine ⟨f, _, hf, hresult, ?_, hsnippets "Map"⟩
  generalize Export.ofSession device.id h.view.session = e at hsave
  have hpath : (e.save "maps" noon.stamp (.empty "/home")).2
      = .ok "maps/mapping-20240501-120000-000.json" := rfl
  rcases hsave "maps" noon (.empty "/home") with ⟨path, hok, hload⟩ | ⟨_, herror, _⟩
  · rw [Except.ok.inj (hpath.symm.trans hok)]
    exact hload
  · rw [hpath] at herror
    exact absurd herror (by simp)

end PadMapping.Proofs
