import Mathlib
import PadMapping.Proofs.Settings.Order
import PadMapping.Proofs.Text.Trimmed
import PadMapping.Proofs.Toml.Keys
import PadMapping.Program.Basic

/-!
# The defaults, overlaid with what the file says

A document that says what it says in tables, with values of the right kinds, settles some of the
settings and leaves the others as they are by default: this is `overlay?`, which looks every
setting up under its group and its key. Nothing else in the document matters, nor does the order
in which it says it, because no key is given twice (`uniqueKeys_parse`) and the keys of a group do
not get into each other's way (`readMembers_eq`).

Only safe settings get through (`validate_eq_ok_iff`). Since the defaults are safe, and a device on
the command line changes nothing that is checked, whatever the program runs with is safe.
-/

namespace PadMapping.Proofs

open Toml (Value Table)
open Settings

/-! ## What a document says -/

/-- A number of milliseconds: a whole number that is not negative. -/
def milliseconds? : Value → Option Nat
  | .integer n => if 0 ≤ n then some n.toNat else none
  | _ => none

/-- A threshold: any number, rounded to 32 bits. -/
def threshold? : Value → Option Single
  | .integer n => some (Binary.ofInt n)
  | .float x => some x.convert
  | _ => none

/-- A text. -/
def text? : Value → Option String
  | .text s => some s
  | _ => none

/-- A truth value. -/
def truth? : Value → Option Bool
  | .boolean b => some b
  | _ => none

section

variable {β : Type}

/-- The setting behind a key: what the table gives for it, which has to be of its kind, and
otherwise what it is without the table. -/
def setting? (members : Table) (key : String) (kind : Value → Option β) (otherwise : β) :
    Option β :=
  match members.lookup key with
  | none => some otherwise
  | some v => kind v

end

/-- The table of a group of settings, which is empty if the document does not have it. -/
def section? (document : Table) (group : String) : Option Table :=
  match document.lookup group with
  | none => some []
  | some (.table members) => some members
  | some _ => none

/-- How the device is read, overlaid with a table. -/
def pollOver? (p : PollSettings) (members : Table) : Option PollSettings := do
  let interval ← setting? members "interval_ms" milliseconds? p.interval
  let threshold ← setting? members "threshold" threshold? p.threshold
  return ⟨interval, threshold⟩

/-- Which device is read, overlaid with a table. -/
def controllerOver? (c : ControllerSettings) (members : Table) : Option ControllerSettings := do
  let devicePath ← setting? members "device_path" text? c.devicePath
  let rescanInterval ← setting? members "rescan_interval_ms" milliseconds? c.rescanInterval
  return ⟨devicePath, rescanInterval⟩

/-- Whether and where results are saved, overlaid with a table. -/
def savingOver? (s : SavingSettings) (members : Table) : Option SavingSettings := do
  let enabled ← setting? members "enabled" truth? s.enabled
  let folder ← setting? members "output_dir" text? s.folder
  return ⟨enabled, folder⟩

/-- What is logged where, overlaid with a table. -/
def loggingOver? (l : LoggingSettings) (members : Table) : Option LoggingSettings := do
  let level ← setting? members "level" text? l.level
  let file ← setting? members "file" text? l.file
  return ⟨level, file⟩

/-- The defaults with exactly the settings replaced that the document gives, if each group in it is
a table and everything given there is of its kind. -/
def overlay? (document : Table) : Option Settings := do
  let poll ← pollOver? standard.poll (← section? document "poll")
  let controller ← controllerOver? standard.controller (← section? document "controller")
  let saving ← savingOver? standard.saving (← section? document "export")
  let logging ← loggingOver? standard.logging (← section? document "logging")
  return ⟨poll, controller, saving, logging⟩

/-- Every group of settings that the document has is a table. -/
def Tabled (document : Table) : Prop :=
  ∀ group ∈ ["poll", "controller", "export", "logging"], ∀ v, document.lookup group = some v →
    ∃ members, v = .table members

/-- The settings with which the program may run. -/
structure Safe (s : Settings) : Prop where
  interval : 1 ≤ s.poll.interval ∧ s.poll.interval ≤ 1000
  /-- The threshold is a number strictly between none and full deflection. -/
  threshold : ∃ x : Rat, s.poll.threshold = .number x ∧ 0 < x ∧ x < 1
  rescanInterval : 1 ≤ s.controller.rescanInterval ∧ s.controller.rescanInterval ≤ 60000
  /-- Results are not saved, or the folder for them has a name that is not blank. -/
  folder : s.saving.enabled = false ∨ ∃ c ∈ s.saving.folder.toList, Text.isBlank c = false
  level : s.logging.level ∈ ["trace", "debug", "info", "warn", "error"]

/-! ## Groups of two settings -/

section

variable {α β γ : Type} {g : Settings.Group α} {members : Table} {k₁ k₂ : String}
  {kind₁ : Value → Option β} {kind₂ : Value → Option γ} {part₁ : α → β} {part₂ : α → γ}
  {make : β → γ → α}

/-- What is computed first and then put in its place. -/
theorem toOption_bind_pure {ε : Type} (x : Except ε β) (f : β → α) :
    (x >>= fun b => pure (f b)).toOption = x.toOption.map f := by
  cases x <;> rfl

theorem bind_map_comm (x : Option β) (y : Option γ) (f : β → γ → α) :
    (x.bind fun b => y.map fun c => f b c) = y.bind fun c => x.map fun b => f b c := by
  cases x <;> cases y <;> rfl

/-- A group of two settings, each with a key and a kind of its own. -/
structure Pair (g : Settings.Group α) (k₁ k₂ : String) (kind₁ : Value → Option β) (kind₂ : Value → Option γ)
    (part₁ : α → β) (part₂ : α → γ) (make : β → γ → α) : Prop where
  keys : g.keys = [k₁, k₂]
  ne : k₁ ≠ k₂
  first : ∀ v s, effect g k₁ v s = (kind₁ v).map fun b => make b (part₂ s)
  second : ∀ v s, effect g k₂ v s = (kind₂ v).map fun c => make (part₁ s) c
  other : ∀ {key : String}, key ∉ [k₁, k₂] → ∀ v s, g.read key v s = .ok s
  part₁_make : ∀ b c, part₁ (make b c) = b
  part₂_make : ∀ b c, part₂ (make b c) = c
  make_parts : ∀ s, make (part₁ s) (part₂ s) = s

theorem Pair.orderly (h : Pair g k₁ k₂ kind₁ kind₂ part₁ part₂ make) : Orderly g where
  keys := by
    rw [h.keys]
    simpa using h.ne
  other := h.keys ▸ h.other
  commute := by
    rw [h.keys]
    refine List.pairwise_pair.mpr fun v v' s => ?_
    simp only [h.first, h.second, Option.bind_map, Function.comp_def, h.part₁_make, h.part₂_make]
    exact bind_map_comm ..

theorem Pair.effectOf_first (h : Pair g k₁ k₂ kind₁ kind₂ part₁ part₂ make) (s : α) :
    effectOf g members k₁ s
      = (setting? members k₁ kind₁ (part₁ s)).map fun b => make b (part₂ s) := by
  cases hlookup : members.lookup k₁ with
  | none => rw [effectOf_of_none hlookup, setting?, hlookup, Option.map_some, h.make_parts]
  | some v => rw [effectOf_of_some hlookup, setting?, hlookup, h.first]

theorem Pair.effectOf_second (h : Pair g k₁ k₂ kind₁ kind₂ part₁ part₂ make) (s : α) :
    effectOf g members k₂ s
      = (setting? members k₂ kind₂ (part₂ s)).map fun c => make (part₁ s) c := by
  cases hlookup : members.lookup k₂ with
  | none => rw [effectOf_of_none hlookup, setting?, hlookup, Option.map_some, h.make_parts]
  | some v => rw [effectOf_of_some hlookup, setting?, hlookup, h.second]

/-- Both settings are what the table gives for them, or what they were before. -/
theorem Pair.readMembers (h : Pair g k₁ k₂ kind₁ kind₂ part₁ part₂ make)
    (hkeys : (members.map Prod.fst).Nodup) (s : α) :
    (g.readMembers s members).toOption = do
      let b ← setting? members k₁ kind₁ (part₁ s)
      let c ← setting? members k₂ kind₂ (part₂ s)
      return make b c := by
  rw [readMembers_eq h.orderly hkeys, h.keys]
  simp only [effects, Option.bind_fun_some, h.effectOf_first, h.effectOf_second,
    Option.map_eq_bind, Option.bind_assoc, Option.bind_some, Function.comp_def, h.part₁_make,
    h.part₂_make, Option.bind_eq_bind, Option.pure_def]

end

/-! ## The four groups -/

theorem toOption_asMilliseconds (v : Value) : v.asMilliseconds.toOption = milliseconds? v := by
  cases v with
  | integer n =>
      cases n with
      | ofNat n => rfl
      | negSucc n => rfl
  | _ => rfl

theorem toOption_asThreshold (v : Value) : v.asThreshold.toOption = threshold? v := by
  cases v <;> rfl

/-- A threshold is judged as it is after the rounding: this one has become full deflection. -/
example : (Value.float (Binary.round (99999999999 / 100000000000))).asThreshold
    = .ok (.number 1) := by
  decide +kernel

theorem toOption_asText (v : Value) : v.asText.toOption = text? v := by
  cases v <;> rfl

theorem toOption_asBoolean (v : Value) : v.asBoolean.toOption = truth? v := by
  cases v <;> rfl

theorem pair_poll : Pair pollGroup "interval_ms" "threshold" milliseconds? threshold?
    PollSettings.interval PollSettings.threshold PollSettings.mk where
  keys := rfl
  ne := by decide
  first v s := toOption_asMilliseconds v ▸ toOption_bind_pure ..
  second v s := toOption_asThreshold v ▸ toOption_bind_pure ..
  other := by
    intro key hother v s
    dsimp only [pollGroup]
    split
    · exact absurd (by decide) hother
    · exact absurd (by decide) hother
    · rfl
  part₁_make _ _ := rfl
  part₂_make _ _ := rfl
  make_parts _ := rfl

theorem pair_controller : Pair controllerGroup "device_path" "rescan_interval_ms" text?
    milliseconds? ControllerSettings.devicePath ControllerSettings.rescanInterval
    ControllerSettings.mk where
  keys := rfl
  ne := by decide
  first v s := toOption_asText v ▸ toOption_bind_pure ..
  second v s := toOption_asMilliseconds v ▸ toOption_bind_pure ..
  other := by
    intro key hother v s
    dsimp only [controllerGroup]
    split
    · exact absurd (by decide) hother
    · exact absurd (by decide) hother
    · rfl
  part₁_make _ _ := rfl
  part₂_make _ _ := rfl
  make_parts _ := rfl

theorem pair_saving : Pair savingGroup "enabled" "output_dir" truth? text?
    SavingSettings.enabled SavingSettings.folder SavingSettings.mk where
  keys := rfl
  ne := by decide
  first v s := toOption_asBoolean v ▸ toOption_bind_pure ..
  second v s := toOption_asText v ▸ toOption_bind_pure ..
  other := by
    intro key hother v s
    dsimp only [savingGroup]
    split
    · exact absurd (by decide) hother
    · exact absurd (by decide) hother
    · rfl
  part₁_make _ _ := rfl
  part₂_make _ _ := rfl
  make_parts _ := rfl

theorem pair_logging : Pair loggingGroup "level" "file" text? text?
    LoggingSettings.level LoggingSettings.file LoggingSettings.mk where
  keys := rfl
  ne := by decide
  first v s := toOption_asText v ▸ toOption_bind_pure ..
  second v s := toOption_asText v ▸ toOption_bind_pure ..
  other := by
    intro key hother v s
    dsimp only [loggingGroup]
    split
    · exact absurd (by decide) hother
    · exact absurd (by decide) hother
    · rfl
  part₁_make _ _ := rfl
  part₂_make _ _ := rfl
  make_parts _ := rfl

/-! ## The whole document -/

section

variable {document : Table}

theorem effect_poll (v : Value) (s : Settings) : effect allGroups "poll" v s
    = (pollGroup.readValue s.poll v).toOption.map fun poll => { s with poll := poll } :=
  toOption_bind_pure ..

theorem effect_controller (v : Value) (s : Settings) : effect allGroups "controller" v s
    = (controllerGroup.readValue s.controller v).toOption.map
        fun controller => { s with controller := controller } :=
  toOption_bind_pure ..

theorem effect_saving (v : Value) (s : Settings) : effect allGroups "export" v s
    = (savingGroup.readValue s.saving v).toOption.map fun saving => { s with saving := saving } :=
  toOption_bind_pure ..

theorem effect_logging (v : Value) (s : Settings) : effect allGroups "logging" v s
    = (loggingGroup.readValue s.logging v).toOption.map
        fun logging => { s with logging := logging } :=
  toOption_bind_pure ..

theorem orderly_allGroups : Orderly allGroups where
  keys := by decide
  other := by
    intro key hother v s
    dsimp only [allGroups]
    split
    · exact absurd (by decide) hother
    · exact absurd (by decide) hother
    · exact absurd (by decide) hother
    · exact absurd (by decide) hother
    · rfl
  commute := by
    have hkeys : allGroups.keys = ["poll", "controller", "export", "logging"] := rfl
    simp only [hkeys, List.pairwise_cons, List.forall_mem_cons, List.not_mem_nil, false_imp_iff,
      implies_true, List.Pairwise.nil, and_true]
    refine ⟨⟨?_, ?_, ?_⟩, ⟨?_, ?_⟩, ?_⟩
    -- Every two groups are about different parts of the settings.
    all_goals
      intro v v' s
      simp only [effect_poll, effect_controller, effect_saving, effect_logging, Option.bind_map,
        Function.comp_def]
      exact bind_map_comm ..

/-- What a document says about a group replaces the settings of that group. -/
theorem effectOf_group {α : Type} {g : Settings.Group α} {group : String} {part : Settings → α}
    {put : Settings → α → Settings} (overlaid : α → Table → Option α)
    (hunique : UniqueKeys (.table document))
    (htable : ∀ v, document.lookup group = some v → ∃ members, v = .table members)
    (heffect : ∀ v s, effect allGroups group v s = (g.readValue (part s) v).toOption.map (put s))
    (hput : ∀ s, put s (part s) = s)
    (hover : ∀ {members : Table}, (members.map Prod.fst).Nodup → ∀ a,
      (g.readMembers a members).toOption = overlaid a members) (s : Settings) :
    effectOf allGroups document group s
      = ((section? document group).bind (overlaid (part s))).map (put s) := by
  cases hlookup : document.lookup group with
  | none =>
      have hnil : (([] : Table).map Prod.fst).Nodup := List.nodup_nil
      have hempty : some (part s) = overlaid (part s) [] := hover hnil (part s)
      rw [effectOf_of_none hlookup, section?, hlookup, Option.bind_some, ← hempty,
        Option.map_some, hput]
  | some v =>
      obtain ⟨members, rfl⟩ := htable v hlookup
      have hkeys : (members.map Prod.fst).Nodup := by
        cases hunique with
        | table _ hinner =>
            cases hinner _ (mem_of_lookup hlookup) with
            | table hkeys _ => exact hkeys
      rw [effectOf_of_some hlookup, section?, hlookup, heffect, Option.bind_some, ← hover hkeys]
      rfl

/-- **What is read from a document is its overlay.** -/
theorem toOption_ofTable (hunique : UniqueKeys (.table document)) (htabled : Tabled document) :
    (ofTable document).toOption = overlay? document := by
  have hkeys : (document.map Prod.fst).Nodup := by
    cases hunique with
    | table hkeys _ => exact hkeys
  have hpoll := effectOf_group pollOver? hunique (htabled "poll" (by decide))
    effect_poll (fun _ => rfl) pair_poll.readMembers
  have hcontroller := effectOf_group controllerOver? hunique
    (htabled "controller" (by decide)) effect_controller (fun _ => rfl) pair_controller.readMembers
  have hsaving := effectOf_group savingOver? hunique (htabled "export" (by decide))
    effect_saving (fun _ => rfl) pair_saving.readMembers
  have hlogging := effectOf_group loggingOver? hunique (htabled "logging" (by decide))
    effect_logging (fun _ => rfl) pair_logging.readMembers
  rw [ofTable, readMembers_eq orderly_allGroups hkeys]
  calc effects allGroups document ["poll", "controller", "export", "logging"] standard
      = overlay? document := by
        simp only [effects, hpoll, hcontroller, hsaving, hlogging, overlay?, Option.bind_fun_some,
          Option.map_eq_bind, Option.bind_assoc, Option.bind_some, Function.comp_def,
          Option.bind_eq_bind, Option.pure_def]

end

/-! ## Safe settings -/

section

variable {s : Settings}

theorem keeps_threshold_iff : s.keeps .threshold = true
    ↔ ∃ x : Rat, s.poll.threshold = .number x ∧ 0 < x ∧ x < 1 := by
  rw [keeps]
  cases s.poll.threshold with
  | number x => simp [Binary.lt]
  | infinity negative => cases negative <;> simp [Binary.lt]
  | _ => simp [Binary.lt]

theorem keeps_folder_iff : s.keeps .folder = true
    ↔ s.saving.enabled = false ∨ ∃ c ∈ s.saving.folder.toList, Text.isBlank c = false := by
  rw [keeps, Bool.or_eq_true, Bool.not_eq_true', Bool.not_eq_true', List.isEmpty_eq_false_iff,
    ne_eq, trimmed_eq_nil_iff]
  simp

theorem validate_eq_ok_iff_keeps :
    s.validate = .ok () ↔ ∀ rule ∈ rules, s.keeps rule = true := by
  rw [validate]
  split
  · rename_i rule hfind
    have hbroken := List.find?_some hfind
    have hmem := List.mem_of_find?_eq_some hfind
    simp only [reduceCtorEq, false_iff]
    intro hkeeps
    rw [hkeeps rule hmem] at hbroken
    exact Bool.noConfusion hbroken
  · rename_i hfind
    simpa using hfind

/-- The checks are passed by the safe settings. -/
theorem validate_eq_ok_iff : s.validate = .ok () ↔ Safe s := by
  have hinterval : s.keeps .interval = true ↔ 1 ≤ s.poll.interval ∧ s.poll.interval ≤ 1000 := by
    simp [keeps]
  have hrescan : s.keeps .rescanInterval = true
      ↔ 1 ≤ s.controller.rescanInterval ∧ s.controller.rescanInterval ≤ 60000 := by
    simp [keeps]
  have hlevel : s.keeps .level = true
      ↔ s.logging.level ∈ ["trace", "debug", "info", "warn", "error"] :=
    List.contains_iff_mem
  rw [validate_eq_ok_iff_keeps]
  simp only [rules, List.forall_mem_cons, List.not_mem_nil, false_imp_iff, implies_true, and_true,
    hinterval, keeps_threshold_iff, hrescan, keeps_folder_iff, hlevel]
  constructor
  · rintro ⟨h₁, h₂, h₃, h₄, h₅⟩
    exact ⟨h₁, h₂, h₃, h₄, h₅⟩
  · rintro ⟨h₁, h₂, h₃, h₄, h₅⟩
    exact ⟨h₁, h₂, h₃, h₄, h₅⟩

/-- What is refused is refused for a rule. -/
theorem validate_eq_error (h : ¬ Safe s) : ∃ rule, s.validate = .error rule := by
  cases hvalidate : s.validate with
  | ok => exact absurd (validate_eq_ok_iff.mp hvalidate) h
  | error rule => exact ⟨rule, rfl⟩

theorem safe_standard : Safe standard := validate_eq_ok_iff.mp (by decide +kernel)

/-- The device is not checked. -/
theorem safe_withDevice (h : Safe s) (device : Option String) :
    Safe (Program.withDevice device s) := by
  cases device with
  | none => exact h
  | some path => exact ⟨h.interval, h.threshold, h.rescanInterval, h.folder, h.level⟩

end

/-! ## Reading and checking -/

section

variable {text : String} {document : Table} {s : Settings}

/-- Only tables are overlaid. -/
theorem tabled_of_overlay? (h : overlay? document = some s) : Tabled document := by
  simp only [overlay?, Option.bind_eq_bind, Option.bind_eq_some_iff] at h
  obtain ⟨_, hpoll, _, _, _, hcontroller, _, _, _, hsaving, _, _, _, hlogging, _⟩ := h
  have htable : ∀ {group : String} {members : Table}, section? document group = some members →
      ∀ v, document.lookup group = some v → ∃ members, v = .table members := by
    intro group members hsection v hlookup
    rw [section?, hlookup] at hsection
    cases v with
    | table members => exact ⟨members, rfl⟩
    | _ => exact absurd hsection (by simp)
  simp only [Tabled, List.forall_mem_cons, List.not_mem_nil, false_imp_iff, implies_true, and_true]
  exact ⟨htable hpoll, htable hcontroller, htable hsaving, htable hlogging⟩

theorem ofTable_eq_ok (hdoc : Toml.parse? text = some document) (h : overlay? document = some s) :
    ofTable document = .ok s := by
  have hread := toOption_ofTable (uniqueKeys_parse hdoc) (tabled_of_overlay? h)
  rw [h] at hread
  cases hresult : ofTable document with
  | error m =>
      rw [hresult] at hread
      exact absurd hread (by simp [Except.toOption])
  | ok s' =>
      rw [hresult] at hread
      rw [Option.some.inj hread]

theorem ofTable_eq_error (hdoc : Toml.parse? text = some document) (htabled : Tabled document)
    (h : overlay? document = none) : ∃ m, ofTable document = .error m := by
  have hread := toOption_ofTable (uniqueKeys_parse hdoc) htabled
  rw [h] at hread
  cases hresult : ofTable document with
  | error m => exact ⟨m, rfl⟩
  | ok s' =>
      rw [hresult] at hread
      exact absurd hread (by simp [Except.toOption])

/-- Settings that could be read are checked, and given if they pass. -/
theorem parse_eq_ok (hdoc : Toml.parse? text = some document) (hread : ofTable document = .ok s)
    (hsafe : Safe s) : Settings.parse text = .ok s := by
  simp only [Settings.parse, hdoc, hread, validate_eq_ok_iff.mpr hsafe]

theorem parse_eq_rule (hdoc : Toml.parse? text = some document) (hread : ofTable document = .ok s)
    (hbroken : ¬ Safe s) : ∃ rule, Settings.parse text = .error (.rule rule) := by
  obtain ⟨rule, hrule⟩ := validate_eq_error hbroken
  exact ⟨rule, by simp only [Settings.parse, hdoc, hread, hrule]⟩

theorem parse_eq_mismatch (hdoc : Toml.parse? text = some document) {m : Mismatch}
    (hread : ofTable document = .error m) : Settings.parse text = .error (.mismatch m) := by
  simp only [Settings.parse, hdoc, hread]

theorem safe_of_parse (h : Settings.parse text = .ok s) : Safe s := by
  rw [Settings.parse] at h
  split at h
  · exact absurd h (by simp)
  · split at h
    · exact absurd h (by simp)
    · split at h
      · exact absurd h (by simp)
      · rename_i hvalidate
        cases h
        exact validate_eq_ok_iff.mp hvalidate

theorem safe_of_ofBytes {content : ByteArray} (h : ofBytes content = .ok s) : Safe s := by
  rw [ofBytes] at h
  split at h
  · exact absurd h (by simp)
  · rename_i text _
    cases hparse : Settings.parse text with
    | error problem =>
        rw [hparse] at h
        exact absurd h (by simp [Except.mapError])
    | ok s' =>
        rw [hparse] at h
        cases h
        exact safe_of_parse hparse

/-- Whatever the program runs with is safe. -/
theorem safe_of_settings {config : Option Program.Source} {device : Option String}
    (h : Program.settings config device = .ok s) : Safe s := by
  rw [Program.settings.eq_def] at h
  split at h
  · cases h
    exact safe_withDevice safe_standard device
  · rename_i source
    split at h
    · exact absurd h (by simp)
    · rename_i s' hload
      cases h
      rw [Program.Source.loadSettings] at hload
      split at hload
      · exact absurd hload (by simp)
      · exact safe_withDevice (safe_of_ofBytes hload) device

end

/-- **Settings are the defaults overlaid with the document, and only safe ones get through.** A
text that is a document is accepted just if what it says, laid over the defaults, is safe, and then
that is what is read; otherwise it is refused for a rule, or for a value of the wrong kind. So the
time between polls is never zero and the threshold never at either end.

A document is what the parser takes for one. Nothing is said here of texts that are documents by
the grammar alone, but that the parser itself refuses: those with values nested 80 levels deep, and
those with numbers such as `1e400` that are beyond all numbers it can hold. -/
theorem accepted_iff_safe :
    (∀ {text : String} {document : Table} {s : Settings}, Toml.parse? text = some document →
        overlay? document = some s →
        (Settings.parse text = .ok s ↔ Safe s)
          ∧ (¬ Safe s → ∃ rule, Settings.parse text = .error (.rule rule)))
      ∧ (∀ {text : String} {document : Table}, Toml.parse? text = some document →
          Tabled document → overlay? document = none →
          ∃ m, Settings.parse text = .error (.mismatch m))
      ∧ ∀ {config : Option Program.Source} {device : Option String} {s : Settings},
          Program.settings config device = .ok s →
          0 < s.viewOptions.interval
            ∧ ∃ x : Rat, s.viewOptions.threshold = .number x ∧ 0 < x ∧ x < 1 := by
  refine ⟨?_, ?_, ?_⟩
  · intro text document s hdoc hoverlay
    have hread := ofTable_eq_ok hdoc hoverlay
    exact ⟨⟨safe_of_parse, parse_eq_ok hdoc hread⟩, parse_eq_rule hdoc hread⟩
  · intro text document hdoc htabled hoverlay
    obtain ⟨m, hm⟩ := ofTable_eq_error hdoc htabled hoverlay
    exact ⟨m, parse_eq_mismatch hdoc hm⟩
  · intro config device s h
    have hsafe := safe_of_settings h
    exact ⟨hsafe.interval.1, hsafe.threshold⟩

/-- A document that says what it says in different ways, with something that means nothing in
between. -/
def mixedText : String :=
  "logging.level = 'debug'
note = []
poll = \x7binterval_ms = 20\x7d
[export]
output_dir = ''
enabled = false
"

/-- What it settles. -/
def mixedSettings : Settings :=
  { standard with poll.interval := 20, saving := ⟨false, ""⟩, logging.level := "debug" }

theorem accepted_of_mixedText :
    (∃ document, Toml.parse? mixedText = some document
        ∧ overlay? document = some mixedSettings)
      ∧ Safe mixedSettings ∧ Settings.parse mixedText = .ok mixedSettings
      ∧ (∃ rule, Settings.parse "poll.threshold = nan\n" = .error (.rule rule))
      ∧ (∃ m, Settings.parse "poll.interval_ms = -5\n" = .error (.mismatch m))
      ∧ 0 < (Program.withDevice (some "/dev/input/event3") standard).viewOptions.interval := by
  obtain ⟨haccepted, hmismatch, hruns⟩ := accepted_iff_safe
  have hnan : Toml.parse? "poll.threshold = nan\n"
      = some [("poll", .table [("threshold", .float .nan)])] := by cbv
  have hnegative : Toml.parse? "poll.interval_ms = -5\n"
      = some [("poll", .table [("interval_ms", .integer (-5))])] := by cbv
  have hmixed : Toml.parse? mixedText = some
      [("logging", .table [("level", .text "debug")]), ("note", .array []),
        ("poll", .table [("interval_ms", .integer 20)]),
        ("export", .table [("output_dir", .text ""), ("enabled", .boolean false)])] := by cbv
  have hsafe : Safe mixedSettings := validate_eq_ok_iff.mp (by decide +kernel)
  refine ⟨⟨_, hmixed, rfl⟩, hsafe, (haccepted hmixed rfl).1.mpr hsafe, ?_, ?_, ?_⟩
  · refine (haccepted hnan rfl).2 fun hsafe => ?_
    obtain ⟨x, hx, _⟩ := hsafe.threshold
    exact absurd hx (by simp [Binary.convert])
  · refine hmismatch hnegative ?_ rfl
    simp [Tabled, List.lookup_cons]
  · have hrun : Program.settings none (some "/dev/input/event3")
        = .ok (Program.withDevice (some "/dev/input/event3") standard) := rfl
    exact (hruns hrun).1

end PadMapping.Proofs
