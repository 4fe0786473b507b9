import PadMapping.Export.Store
import PadMapping.Proofs.Export.RoundTrip
import PadMapping.Proofs.Files.Rooted
import PadMapping.Proofs.Text.Digits

/-!
# Saved exports are kept

Every export is saved in a file of its own, at a path where nothing was before, and stays there,
whatever is saved later and whatever the clock shows.

The argument goes from the inside out: what one attempt to make a file comes to (`Creates`), what
the attempts for one export come to (`Writes`), and what saving it comes to as a whole (`Saved` and
`Unsaved`). After that only the growth of the tree is needed.
-/

namespace PadMapping.Proofs

open FileTree Export

/-! ## The names of files -/

/-- A text that can stand in a name. -/
def Plain (text : String) : Prop := ∀ c ∈ text.toList, c ≠ '/' ∧ c ≠ '\x00'

theorem Plain.append {front back : String} (h : Plain front) (h' : Plain back) :
    Plain (front ++ back) := by
  intro c hc
  rw [String.toList_append] at hc
  rcases List.mem_append.mp hc with hc | hc
  · exact h c hc
  · exact h' c hc

theorem plain_of_digits {cs : List Char} (h : ∀ c ∈ cs, c.isDigit = true) :
    Plain (String.ofList cs) := by
  intro c hc
  rw [String.toList_ofList] at hc
  have hdigit := h c hc
  constructor
  · rintro rfl
    exact absurd hdigit (by decide)
  · rintro rfl
    exact absurd hdigit (by decide)

theorem plain_stamp (now : PadMapping.Moment) : Plain now.stamp := by
  have hpadded : ∀ width n, Plain (String.ofList (Text.padded 10 width n)) := by
    intro width n
    apply plain_of_digits
    intro c hc
    rcases List.mem_append.mp hc with hc | hc
    · rw [List.eq_of_mem_replicate hc]
      decide
    · exact isDigit_of_mem_decimal hc
  have hdash : Plain "-" := by simp [Plain]
  have hdate := ((hpadded 4 now.year).append (hpadded 2 now.month)).append (hpadded 2 now.day)
  have hhour := (hdate.append hdash).append (hpadded 2 now.hour)
  have htime := (hhour.append (hpadded 2 now.minute)).append (hpadded 2 now.second)
  exact (htime.append hdash).append (hpadded 3 now.millisecond)

/-- What all names have in common. -/
theorem fileName_eq (now : PadMapping.Moment) (n : Nat) :
    ∃ rest, fileName now.stamp n = "mapping-" ++ rest ∧ Plain rest := by
  have hjson : Plain ".json" := by simp [Plain]
  cases n with
  | zero =>
      refine ⟨now.stamp ++ ".json", ?_, (plain_stamp now).append hjson⟩
      rw [fileName, String.append_assoc]
  | succ n =>
      have hnumber : Plain (toString (n + 1)) :=
        plain_of_digits fun c hc => isDigit_of_mem_decimal hc
      have hdash : Plain "-" := by simp [Plain]
      refine ⟨now.stamp ++ "-" ++ toString (n + 1) ++ ".json", ?_,
        (((plain_stamp now).append hdash).append hnumber).append hjson⟩
      simp only [fileName, String.append_assoc]

theorem plain_fileName (now : PadMapping.Moment) (n : Nat) : Plain (fileName now.stamp n) := by
  obtain ⟨rest, hname, hrest⟩ := fileName_eq now n
  rw [hname]
  exact Plain.append (by simp [Plain]) hrest

theorem inPath_fileName (now : PadMapping.Moment) (n : Nat) : InPath (fileName now.stamp n) where
  ne_empty := by
    obtain ⟨rest, hname, _⟩ := fileName_eq now n
    rw [hname]
    simp
  noSlash := fun hslash => (plain_fileName now n _ hslash).1 rfl

theorem endsWithSlash_filePath (folder : String) (now : PadMapping.Moment) (n : Nat) :
    Path.endsWithSlash (filePath folder now.stamp n) = false :=
  endsWithSlash_join (inPath_fileName now n)

theorem fileName_ne_dots (now : PadMapping.Moment) (n : Nat) :
    fileName now.stamp n ≠ "." ∧ fileName now.stamp n ≠ ".." := by
  obtain ⟨rest, hname, _⟩ := fileName_eq now n
  have hne : ∀ text : String, text.toList.head? ≠ some 'm' → fileName now.stamp n ≠ text := by
    rintro text htext rfl
    rw [hname] at htext
    exact htext (by simp)
  exact ⟨hne "." (by simp), hne ".." (by simp)⟩

/-! ## The attempts for one export -/

section

variable {folder stamp : String} {content : ByteArray} {tree : FileTree}

/-- There is something at the paths of all numbers from `n` on that are less than `m`. -/
def AllTaken (tree : FileTree) (folder stamp : String) (n m : Nat) : Prop :=
  ∀ k, n ≤ k → k < m → Taken tree (filePath folder stamp k)

theorem AllTaken.cons {n m : Nat} (hn : Taken tree (filePath folder stamp n))
    (h : AllTaken tree folder stamp (n + 1) m) : AllTaken tree folder stamp n m := by
  intro k hk hkm
  rcases Nat.eq_or_lt_of_le hk with rfl | hk
  · exact hn
  · exact h k hk hkm

/-- What the attempts from a number on come to. -/
inductive Writes (folder stamp : String) (content : ByteArray) (tree : FileTree)
    (attempts n : Nat) : FileTree × Except FileFault String → Prop where
  | written {k : Nat} {l : Location} : k < n + attempts → AllTaken tree folder stamp n k →
      tree.resolve (filePath folder stamp k) = .ok l → tree.entry? l = none →
      Writes folder stamp content tree attempts n
        (tree.add l (.file content), .ok (filePath folder stamp k))
  | refused {k : Nat} {fault : FileFault} : k < n + attempts → AllTaken tree folder stamp n k →
      tree.resolve (filePath folder stamp k) = .error fault →
      Writes folder stamp content tree attempts n (tree, .error fault)
  | exhausted : AllTaken tree folder stamp n (n + attempts) →
      Writes folder stamp content tree attempts n (tree, .error .alreadyExists)

theorem writes (folder stamp : String) (content : ByteArray) (tree : FileTree) (attempts n : Nat) :
    Writes folder stamp content tree attempts n
      (writeNew folder stamp content tree attempts n) := by
  have hnone : AllTaken tree folder stamp n n := fun k hk hkn => absurd hkn (Nat.not_lt_of_le hk)
  induction attempts generalizing n with
  | zero => exact .exhausted hnone
  | succ attempts ih =>
      have hcreates := creates tree (filePath folder stamp n) content
      rw [writeNew]
      generalize tree.create (filePath folder stamp n) content = result at hcreates ⊢
      cases hcreates with
      | created hpath hentry => exact .written (by omega) hnone hpath hentry
      | @refused fault hpath hfault =>
          -- only what is there already is a reason to go on
          cases fault with
          | alreadyExists => exact absurd rfl hfault
          | _ => exact .refused (by omega) hnone hpath
      | taken htaken =>
          have hrest := ih (n + 1) fun k hk hkn => absurd hkn (Nat.not_lt_of_le hk)
          simp only
          generalize writeNew folder stamp content tree attempts (n + 1) = result at hrest
          cases hrest with
          | written hk hall hpath hentry =>
              exact .written (by omega) (hall.cons htaken) hpath hentry
          | refused hk hall hpath => exact .refused (by omega) (hall.cons htaken) hpath
          | exhausted hall =>
              rw [Nat.add_right_comm, Nat.add_assoc] at hall
              exact .exhausted (hall.cons htaken)

theorem save_cases (e : Export) (folder stamp : String) (tree : FileTree) :
    (∃ made fault, tree.makeDirectories folder = (made, .error fault)
        ∧ e.save folder stamp tree = (made, .error fault))
      ∨ ∃ made directory, tree.makeDirectories folder = (made, .ok directory)
        ∧ Writes folder stamp e.pretty.toUTF8 made fileNumbers 0 (e.save folder stamp tree) := by
  rw [Export.save]
  cases hmake : tree.makeDirectories folder with
  | mk made result =>
      cases result with
      | error fault => exact .inl ⟨made, fault, rfl, rfl⟩
      | ok directory => exact .inr ⟨made, directory, rfl, writes ..⟩

end

/-! ## A single export -/

/-- The export was saved at the path. -/
structure Saved (e : Export) (folder : String) (now : PadMapping.Moment) (before after : FileTree)
    (path : String) : Prop where
  /-- Of the paths for this moment it is the first one that is free once there is the folder. -/
  first : ∃ n < fileNumbers, path = filePath folder now.stamp n
    ∧ AllTaken (before.makeDirectories folder).1 folder now.stamp 0 n
    ∧ ¬ Taken (before.makeDirectories folder).1 path
  /-- If the folder was there, it is found as it was. -/
  folder : ∀ l, before.resolve folder = .ok l → before.present l = .directory →
    (before.makeDirectories folder).1 = before
  /-- There was nothing at the path. -/
  unused : ¬ Taken before path
  /-- All that was there is still there. -/
  grows : Grows before after
  /-- There is one more file, with the text of the export. -/
  file : ∃ l, after.resolve path = .ok l ∧ before.entry? l = none
    ∧ ∀ k content, after.entry? k = some (.file content)
      ↔ before.entry? k = some (.file content) ∨ k = l ∧ content = e.pretty.toUTF8

/-- Why an export cannot be saved. -/
inductive SaveFault (folder : String) (now : PadMapping.Moment) (before : FileTree) :
    FileFault → Prop where
  | folder {fault : FileFault} : (before.makeDirectories folder).2 = .error fault →
      SaveFault folder now before fault
  /-- The file cannot be made. In a tree that hangs together this can only be for its length. -/
  | path {n : Nat} {fault : FileFault} : n < fileNumbers →
      AllTaken (before.makeDirectories folder).1 folder now.stamp 0 n →
      FileTree.resolve (before.makeDirectories folder).1 (filePath folder now.stamp n)
        = .error fault →
      (Rooted before → Path.tooLong ≤ (filePath folder now.stamp n).utf8ByteSize
        ∨ Path.maxName < (fileName now.stamp n).utf8ByteSize) →
      SaveFault folder now before fault
  /-- All numbers are taken. -/
  | full : AllTaken (before.makeDirectories folder).1 folder now.stamp 0 fileNumbers →
      SaveFault folder now before .alreadyExists

/-- The export was not saved. No file is new or changed. -/
structure Unsaved (folder : String) (now : PadMapping.Moment) (before after : FileTree)
    (fault : FileFault) : Prop where
  cause : SaveFault folder now before fault
  grows : Grows before after
  file : ∀ l content, after.entry? l = some (.file content) ↔ before.entry? l = some (.file content)

section

variable {folder : String} {now : PadMapping.Moment} {before made : FileTree}

theorem Taken.of_grows {tree tree' : FileTree} (h : Grows tree tree') {path : String}
    (hslash : Path.endsWithSlash path = false) (htaken : Taken tree path) : Taken tree' path := by
  obtain ⟨l, hpath, hentry⟩ := htaken
  obtain ⟨entry, hentry⟩ := Option.ne_none_iff_exists'.mp hentry
  exact ⟨l, h.resolve hslash hpath, by rw [h.entry l entry hentry]; simp⟩

theorem not_taken_of_resolve {tree : FileTree} {path : String} {l : Location}
    (hpath : tree.resolve path = .ok l) (hentry : tree.entry? l = none) : ¬ Taken tree path := by
  rintro ⟨k, hk, hne⟩
  rw [hpath] at hk
  injection hk with hk
  exact hne (hk ▸ hentry)

/-- The path of a file leads somewhere once there is the folder, unless it is too long. -/
theorem length_of_refused {n : Nat} {directory : Location} {fault : FileFault}
    (hrooted : Rooted before) (hmake : before.makeDirectories folder = (made, .ok directory))
    (hpath : made.resolve (filePath folder now.stamp n) = .error fault) :
    Path.tooLong ≤ (filePath folder now.stamp n).utf8ByteSize
      ∨ Path.maxName < (fileName now.stamp n).utf8ByteSize := by
  by_contra hlength
  rw [not_or, Nat.not_le, Nat.not_lt] at hlength
  have hname : '\x00' ∉ (fileName now.stamp n).toList := fun hzero =>
    (plain_fileName now n _ hzero).2 rfl
  have hfolder : '\x00' ∉ folder.toList := noZero_of_makeDirectories (by rw [hmake])
  have hcheck := check_join (inPath_fileName now n) hname hfolder hlength.1
  obtain ⟨hdot, hdots⟩ := fileName_ne_dots now n
  have hresolve :=
    resolve_join hrooted hmake (inPath_fileName now n) ⟨hdot, hdots, hlength.2⟩ hcheck
  rw [filePath, hresolve] at hpath
  exact absurd hpath (by simp)

theorem saved_of_written (e : Export) {n : Nat} {l : Location}
    (hmake : (before.makeDirectories folder).1 = made) (hn : n < fileNumbers)
    (hall : AllTaken made folder now.stamp 0 n)
    (hpath : made.resolve (filePath folder now.stamp n) = .ok l) (hentry : made.entry? l = none) :
    Saved e folder now before (made.add l (.file e.pretty.toUTF8))
      (filePath folder now.stamp n) := by
  have hadds : AddsDirectories before made := hmake ▸ addsDirectories_makeDirectories before folder
  have hslash := endsWithSlash_filePath folder now n
  have hfree : ¬ Taken made (filePath folder now.stamp n) := not_taken_of_resolve hpath hentry
  refine ⟨⟨n, hn, rfl, by rwa [hmake], by rwa [hmake]⟩, ?_, ?_, ?_, ?_⟩
  · intro k hk hdirectory
    rw [makeDirectories_of_resolve hk hdirectory]
  · exact fun htaken => hfree (htaken.of_grows hadds.toGrows hslash)
  · exact hadds.toGrows.trans (.add made l _)
  · refine ⟨l, (Grows.add made l _).resolve hslash hpath, hadds.entry_eq_none hentry, ?_⟩
    intro k content
    rw [entry?_add_eq_some, hadds.file_iff]
    constructor
    · rintro (hk | ⟨_, rfl, hcontent⟩)
      · exact .inl hk
      · injection hcontent with hcontent
        exact .inr ⟨rfl, hcontent.symm⟩
    · rintro (hk | ⟨rfl, rfl⟩)
      · exact .inl hk
      · exact .inr ⟨hentry, rfl, rfl⟩

/-- Whether an export is saved or not, this is all that happens. -/
theorem saved_or_unsaved (e : Export) (folder : String) (now : PadMapping.Moment)
    (before : FileTree) :
    (∃ path, (e.save folder now.stamp before).2 = .ok path
        ∧ Saved e folder now before (e.save folder now.stamp before).1 path)
      ∨ ∃ fault, (e.save folder now.stamp before).2 = .error fault
        ∧ Unsaved folder now before (e.save folder now.stamp before).1 fault := by
  have hadds := addsDirectories_makeDirectories before folder
  rcases save_cases e folder now.stamp before with
    ⟨made, fault, hmake, hsave⟩ | ⟨made, directory, hmake, hwrites⟩
  · rw [hmake] at hadds
    rw [hsave]
    exact .inr ⟨fault, rfl, .folder (by rw [hmake]), hadds.toGrows, hadds.file_iff⟩
  · have hmade : (before.makeDirectories folder).1 = made := by rw [hmake]
    rw [hmade] at hadds
    generalize e.save folder now.stamp before = result at hwrites ⊢
    cases hwrites with
    | @written n l hn hall hpath hentry =>
        rw [Nat.zero_add] at hn
        exact .inl ⟨_, rfl, saved_of_written e hmade hn hall hpath hentry⟩
    | @refused n fault hn hall hpath =>
        rw [Nat.zero_add] at hn
        have hcause : SaveFault folder now before fault :=
          .path hn (by rwa [hmade]) (by rwa [hmade]) fun hrooted =>
            length_of_refused hrooted hmake hpath
        exact .inr ⟨fault, rfl, hcause, hadds.toGrows, hadds.file_iff⟩
    | exhausted hall =>
        rw [Nat.zero_add] at hall
        exact .inr ⟨_, rfl, .full (by rwa [hmade]), hadds.toGrows, hadds.file_iff⟩

end

/-! ## Exports one after another -/

/-- The tree after exports were saved in a folder, each with what the clock showed then. -/
def saveAll (folder : String) : List (Export × PadMapping.Moment) → FileTree → FileTree
  | [], tree => tree
  | (e, now) :: saves, tree => saveAll folder saves (e.save folder now.stamp tree).1

theorem grows_save (e : Export) (folder : String) (now : PadMapping.Moment) (tree : FileTree) :
    Grows tree (e.save folder now.stamp tree).1 := by
  rcases saved_or_unsaved e folder now tree with ⟨_, _, hsaved⟩ | ⟨_, _, hunsaved⟩
  · exact hsaved.grows
  · exact hunsaved.grows

theorem grows_saveAll (folder : String) (saves : List (Export × PadMapping.Moment))
    (tree : FileTree) : Grows tree (saveAll folder saves tree) := by
  induction saves generalizing tree with
  | nil => exact .refl tree
  | cons save saves ih => exact (grows_save save.1 folder save.2 tree).trans (ih _)

theorem rooted_save {tree : FileTree} (h : Rooted tree) (e : Export) (folder : String)
    (now : PadMapping.Moment) : Rooted (e.save folder now.stamp tree).1 := by
  obtain ⟨hmade, _⟩ := rooted_makeDirectories h folder
  rcases save_cases e folder now.stamp tree with
    ⟨made, fault, hmake, hsave⟩ | ⟨made, directory, hmake, hwrites⟩
  · rw [hmake] at hmade
    rwa [hsave]
  · rw [hmake] at hmade
    generalize e.save folder now.stamp tree = result at hwrites ⊢
    cases hwrites with
    | @written n _ _ _ hpath _ =>
        exact rooted_add_of_resolve hmade hpath (inPath_fileName now n) (fileName_ne_dots now n) _
    | refused _ _ _ | exhausted _ => exact hmade

theorem rooted_saveAll {tree : FileTree} (h : Rooted tree) (folder : String)
    (saves : List (Export × PadMapping.Moment)) : Rooted (saveAll folder saves tree) := by
  induction saves generalizing tree with
  | nil => exact h
  | cons save saves ih => exact ih (rooted_save h save.1 folder save.2)

theorem saveAll_append (folder : String) (front back : List (Export × PadMapping.Moment))
    (tree : FileTree) :
    saveAll folder (front ++ back) tree = saveAll folder back (saveAll folder front tree) := by
  induction front generalizing tree with
  | nil => rfl
  | cons save front ih => exact ih _

theorem ofBytes_toUTF8 (text : String) :
    Export.ofBytes text.toUTF8 = (Export.parse text).mapError .json := by
  have htext : String.fromUTF8? text.toUTF8 = some text := by
    rw [String.fromUTF8?, dif_pos (show text.toUTF8.IsValidUTF8 from text.isValidUTF8)]
    rfl
  rw [Export.ofBytes, htext]

theorem ofBytes_eq_ok_iff {text : String} {e : Export} :
    Export.ofBytes text.toUTF8 = .ok e ↔ Export.parse text = .ok e := by
  rw [ofBytes_toUTF8]
  cases Export.parse text <;> simp [Except.mapError]

/-- What was saved can be loaded from any later tree. -/
theorem Saved.load {e : Export} {folder : String} {now : PadMapping.Moment}
    {before after final : FileTree} {path : String} (h : Saved e folder now before after path)
    (hgrows : Grows after final) (hnumbered : ∀ a ∈ e.assignments, Numbered a) :
    Export.load path final = .ok e := by
  obtain ⟨n, _, rfl, _⟩ := h.first
  obtain ⟨l, hpath, _, hfile⟩ := h.file
  have hentry := hgrows.entry l _ ((hfile l _).mpr (.inr ⟨rfl, rfl⟩))
  have hresolve := hgrows.resolve (endsWithSlash_filePath folder now n) hpath
  rw [Export.load, read_of_entry? hresolve hentry]
  simp only
  rw [ofBytes_toUTF8, Export.pretty, parse_layout hnumbered]
  rfl

/--
**Saving never loses or overwrites an export.**

Exports are saved in a folder one after another, whatever is there at first and whatever the clock
shows each time. Each of them gets the first free path of its moment, where there was nothing
before, and one more file with its text. Or it is not saved and no file is new or changed, because
the folder or the file cannot be made, which in a tree that hangs together is only for its length, or
because all numbers are taken. An export that was saved can be loaded by its path when all is done.
-/
theorem exports_kept (folder : String) (tree : FileTree)
    (front back : List (Export × PadMapping.Moment)) {e : Export} (now : PadMapping.Moment)
    (hnumbered : ∀ a ∈ e.assignments, Numbered a) :
    let before := saveAll folder front tree
    let outcome := e.save folder now.stamp before
    ((∃ path, outcome.2 = .ok path ∧ Saved e folder now before outcome.1 path
        ∧ Export.load path (saveAll folder (front ++ (e, now) :: back) tree) = .ok e)
      ∨ ∃ fault, outcome.2 = .error fault ∧ Unsaved folder now before outcome.1 fault)
    ∧ (Rooted tree → Rooted before) := by
  intro before outcome
  refine ⟨?_, fun hrooted => rooted_saveAll hrooted folder front⟩
  rcases saved_or_unsaved e folder now before with ⟨path, hpath, hsaved⟩ | hunsaved
  · left
    refine ⟨path, hpath, hsaved, ?_⟩
    rw [saveAll_append]
    exact hsaved.load (grows_saveAll folder back outcome.1) hnumbered
  · exact .inr hunsaved

/-- Noon of a day. -/
def noon : PadMapping.Moment := ⟨2024, 5, 1, 12, 0, 0, 0⟩

/-- An export with a single step. -/
def singleStepExport (index : Nat) : Export :=
  ⟨"Pad", [⟨⟨"A/B", .button, 0⟩, some (.button index)⟩]⟩

/-- The second of three exports that are saved at the same time. -/
theorem load_of_second_save :
    ((singleStepExport 1).save "saves" noon.stamp
        (saveAll "saves" [(singleStepExport 0, noon)] (.empty "/home"))).2
      = .ok "saves/mapping-20240501-120000-000-1.json"
    ∧ Export.load "saves/mapping-20240501-120000-000-1.json"
        (saveAll "saves" [(singleStepExport 0, noon), (singleStepExport 1, noon),
          (singleStepExport 2, noon)] (.empty "/home"))
      = .ok (singleStepExport 1) := by
  have hpath : ((singleStepExport 1).save "saves" noon.stamp
      (saveAll "saves" [(singleStepExport 0, noon)] (.empty "/home"))).2
      = .ok "saves/mapping-20240501-120000-000-1.json" := rfl
  have hnumbered : ∀ a ∈ (singleStepExport 1).assignments, Numbered a := by
    intro a ha
    rw [List.mem_singleton.mp ha]
    exact ⟨by decide, by simp [controlIndex, Text.wordBound]⟩
  refine ⟨hpath, ?_⟩
  rcases (exports_kept "saves" (.empty "/home") [(singleStepExport 0, noon)]
      [(singleStepExport 2, noon)] noon hnumbered).1 with ⟨path, hsave, _, hload⟩ | ⟨_, hsave, _⟩
  · rw [Except.ok.inj (hpath.symm.trans hsave)]
    rwa [List.singleton_append] at hload
  · rw [hpath] at hsave
    exact absurd hsave (by simp)

end PadMapping.Proofs
