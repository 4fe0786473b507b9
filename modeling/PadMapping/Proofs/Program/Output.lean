import PadMapping.Program.Run
import PadMapping.Proofs.Export.Store
import PadMapping.Proofs.Snippet.Extent

/-!
# What the program prints

The command for snippets can fail in four places: the file cannot be read, its content is no export,
the id of the device has no numbers, or a place has no slot, and that may come up when most of the
text is already made. Whichever it is, nothing is printed, because the text is printed only when it
is complete.

`Refused` lists the reasons in the order in which they are looked for. Each of them asks for the
absence of those before it, so that there is only one for a file.
-/

namespace PadMapping.Proofs

open Program Snippet

/-! ## Snippets for an export -/

/-- Why no snippets can be made of an export. -/
inductive Unmade (e : Export) : Snippet.Problem → Prop where
  | device {fault : DeviceId.Fault} (hid : DeviceId.parse e.deviceId = .error fault) :
      Unmade e (.device fault)
  | slot {id : DeviceId} {a : Assignment} (hid : DeviceId.parse e.deviceId = .ok id)
      (houtside : FirstOutside e.assignments a) : Unmade e (.slot (faultOf a))

theorem tableEntry_of_id {e : Export} {id : DeviceId} (h : DeviceId.parse e.deviceId = .ok id)
    (name : String) : ∃ entry, tableEntry e name = .ok entry := by
  rw [tableEntry, h]
  exact ⟨_, rfl⟩

/-- **Both snippets are made, or the first thing that is wrong is said.** -/
theorem render_cases (e : Export) (name : String) :
    (∃ id text, DeviceId.parse e.deviceId = .ok id ∧ (∀ a ∈ e.assignments, InTable a)
        ∧ render e name = .ok text)
      ∨ ∃ problem, Unmade e problem ∧ render e name = .error problem := by
  cases hid : DeviceId.parse e.deviceId with
  | error fault =>
      refine .inr ⟨.device fault, .device hid, ?_⟩
      rw [render, tableEntry, hid]
      rfl
  | ok id =>
      obtain ⟨entry, hentry⟩ := tableEntry_of_id hid name
      -- the entry is made, so what comes next is the first place without a slot
      rcases foldlM_assign_cases e.assignments .identity with ⟨hall, m, hm⟩ | ⟨a, ha, herror⟩
      · have htext : ∃ text, render e name = .ok text := by
          rw [render, hentry, mapperFunction, Mapper.ofExport, hm]
          exact ⟨_, rfl⟩
        obtain ⟨text, htext⟩ := htext
        exact .inl ⟨id, text, rfl, hall, htext⟩
      · refine .inr ⟨.slot (faultOf a), .slot hid ha, ?_⟩
        rw [render, hentry, mapperFunction, Mapper.ofExport, herror]
        rfl

/-! ## The command -/

/-- Why the command for snippets prints nothing, for the export at a path. -/
inductive Refused (path : String) (tree : FileTree) : Program.Fault → Prop where
  | unloaded {cause : LoadFault} (hload : Export.load path tree = .error cause) :
      Refused path tree (.loading path cause)
  | unmade {e : Export} {problem : Snippet.Problem} (hload : Export.load path tree = .ok e)
      (hmade : Unmade e problem) : Refused path tree (.command (.snippet problem))

theorem loadExport_source (path : String) (host : Host) :
    (source path host).loadExport = Export.load path host.files := by
  unfold Source.loadExport source Export.load
  cases host.files.read path <;> rfl

/-- The text of a command comes from its export, and there is only one reason not to have it. -/
theorem snippets_cases (path name : String) (host : Host) :
    (∃ e id text, Export.load path host.files = .ok e ∧ DeviceId.parse e.deviceId = .ok id
        ∧ (∀ a ∈ e.assignments, InTable a) ∧ render e name = .ok text
        ∧ snippets (source path host) name = .ok text)
      ∨ ∃ fault, Refused path host.files fault
        ∧ snippets (source path host) name = .error fault := by
  rw [snippets, loadExport_source]
  cases hload : Export.load path host.files with
  | error cause => exact .inr ⟨.loading path cause, .unloaded hload, rfl⟩
  | ok e =>
      rcases render_cases e name with ⟨id, text, hid, hslots, htext⟩ | ⟨problem, hmade, herror⟩
      · refine .inl ⟨e, id, text, rfl, hid, hslots, htext, ?_⟩
        simp only [htext, Except.mapError]
      · refine .inr ⟨_, .unmade hload hmade, ?_⟩
        simp only [herror, Except.mapError]

/-- Opening the log prints nothing. -/
theorem openLog_screen {s : Settings} {host opened : Host} {outcome : Except FileFault Unit}
    (h : openLog s host = (opened, outcome)) : opened.screen = host.screen := by
  unfold openLog at h
  split at h
  · cases h
    rfl
  · cases h
    rfl

/-- Printing on a screen that takes everything. -/
theorem print_of_room {host : Host} (h : host.screen.room = none) (text : String) :
    print text host
      = ({ host with screen := ⟨host.screen.content ++ text.toUTF8.toList, none⟩ }, .success) := by
  obtain ⟨⟨content, room⟩, files, stamp⟩ := host
  subst h
  rfl

/--
**The command for snippets prints all or nothing.**

Let the program be run for the snippets of an export, with settings that can be loaded and a log
that can be opened, on a screen that takes everything. Whatever is at the path of the export, and
under every name:

- If the export can be loaded, the id of its device can be read and all its places are in the
  tables, then exactly the snippets are printed, and the program succeeds.
- Otherwise nothing is printed, and the program fails for the first of these reasons that holds.
-/
theorem codegen_prints_all_or_nothing {arguments : List String} {a : Arguments} {path name : String}
    {world : InputDirectory} {happenings : List Happening} {host opened : Host} {s : Settings}
    (hparse : Arguments.parse arguments = .run a) (hcommand : a.command = .codegen path name)
    (hsettings : settings (a.config.map (source · host)) a.device = .ok s)
    (hlog : openLog s host = (opened, .ok ())) (hroom : host.screen.room = none) :
    (∃ e id text, Export.load path opened.files = .ok e ∧ DeviceId.parse e.deviceId = .ok id
        ∧ (∀ a ∈ e.assignments, InTable a) ∧ render e name = .ok text
        ∧ (run arguments world happenings host).1.screen.content
          = host.screen.content ++ text.toUTF8.toList
        ∧ (run arguments world happenings host).2.exitCode = 0)
      ∨ ∃ fault, Refused path opened.files fault
        ∧ (run arguments world happenings host).1.screen = host.screen
        ∧ (run arguments world happenings host).2 = .failure fault
        ∧ (run arguments world happenings host).2.exitCode = 1 := by
  have hscreen := openLog_screen hlog
  -- nothing but the command is left of the run
  have hrun : run arguments world happenings host
      = printResult (snippets (source path opened) name) opened := by
    rw [run, hparse]
    simp only [runArguments, hsettings, hlog, runCommand, hcommand]
  rw [hrun]
  rcases snippets_cases path name opened with
    ⟨e, id, text, hload, hid, hslots, htext, hmade⟩ | ⟨fault, hrefused, herror⟩
  · refine .inl ⟨e, id, text, hload, hid, hslots, htext, ?_⟩
    rw [hmade, printResult, print_of_room (hscreen ▸ hroom), hscreen]
    exact ⟨rfl, rfl⟩
  · refine .inr ⟨fault, hrefused, ?_⟩
    rw [herror, printResult]
    refine ⟨hscreen, rfl, ?_⟩
    cases hrefused <;> rfl

/-- An export with an id that has no numbers, and with a button beyond the table. -/
def doublyBroken : Export := ⟨"Pad", [⟨⟨"Button Z", .button, 17⟩, none⟩]⟩

/-- A host with this export in a file. -/
def brokenHost : Host where
  screen := .empty none
  files := (FileTree.empty "/work").withFile "pad.json" doublyBroken.compact.toUTF8
  stamp := "20240501-120000-000"

theorem load_brokenHost : Export.load "pad.json" brokenHost.files = .ok doublyBroken := by
  have hread : brokenHost.files.read "pad.json" = .ok doublyBroken.compact.toUTF8 := rfl
  rw [Export.load, hread]
  simp only
  rw [ofBytes_eq_ok_iff]
  exact parse_layout (List.forall_mem_singleton.mpr ⟨by decide, by simp⟩) .compact

theorem parse_codegen : Arguments.parse ["codegen", "pad.json"]
    = .run ⟨none, none, .codegen "pad.json" defaultName⟩ := by
  simp [Arguments.parse, Arguments.readOptions, Arguments.readCommand, Arguments.readCodegen,
    Arguments.Token.of, Arguments.isHelp, Arguments.isVersion, Arguments.ValueOption.use]

/-- The id is what is said to be wrong. -/
theorem run_of_doublyBroken :
    let ended := run ["codegen", "pad.json"] (.empty .missing) [] brokenHost
    ended.1.screen.content = [] ∧ ended.2.exitCode = 1
      ∧ ended.2 = .failure (.command (.snippet (.device (.noVendor "Pad")))) := by
  have hid : DeviceId.parse doublyBroken.deviceId = .error (.noVendor "Pad") := rfl
  have hlog : openLog .standard brokenHost = (brokenHost, .ok ()) := rfl
  have hcases := @codegen_prints_all_or_nothing _ _ _ _ (.empty .missing) [] _ _ _ parse_codegen rfl
    rfl hlog rfl
  rw [load_brokenHost] at hcases
  rcases hcases with ⟨e, id, _, hload, hgood, _⟩ | ⟨fault, hrefused, hscreen, hfailure, hcode⟩
  · cases hload
    rw [hid] at hgood
    cases hgood
  · refine ⟨by rw [hscreen]; rfl, hcode, hfailure.trans ?_⟩
    cases hrefused with
    | unloaded hload =>
        rw [load_brokenHost] at hload
        cases hload
    | unmade hload hmade =>
        rw [load_brokenHost] at hload
        cases hload
        cases hmade with
        | device hbad =>
            rw [hid] at hbad
            cases hbad
            rfl
        | slot hgood _ =>
            rw [hid] at hgood
            cases hgood

end PadMapping.Proofs
