import PadMapping.Proofs.Files.Split
import PadMapping.Proofs.Text.Trimmed
import PadMapping.Settings.LogFile

/-!
# Where the log is

The log of a path that ends with the name of a file is that file: its directory and its name, put
together again, lead where the path leads (`reached_of_endsWithName`).

A path that ends with a slash or with dots is one to a directory, but the log need not be in it. A
slash or single dots at the end are lost when the path is taken apart, so the name in front of them
is that of the log, which is where the directory ought to be. Two dots at the end are no name, but
what is in front of them is taken for the directory, which is one too low. And a path without any
names is taken for the working directory, even if it is that of the root. So the log is in the
directory only by chance (`Ending.Kept`).
-/

namespace PadMapping.Proofs

open FileTree LogFile

/-! ## The file that a path names -/

/-- A name that a file can have. -/
structure FileName (name : String) : Prop extends InPath name where
  ne_dot : name ≠ "."
  ne_dots : name ≠ ".."

theorem fileName_defaultName : FileName defaultName :=
  ⟨⟨by decide, by decide⟩, by decide, by decide⟩

/-- The path ends with the name of a file. -/
inductive EndsWithName : String → String → Prop where
  | alone {name : String} : FileName name → EndsWithName name name
  | inside (front : String) {name : String} : FileName name →
      EndsWithName (front ++ "/" ++ name) name

/-- Where a path leads, leaving aside what is checked of it before any name is looked up. -/
def reached (tree : FileTree) (path : String) : Except FileFault Location :=
  (Location.follow tree.present (origin tree path) (Path.names path)).bind fun l =>
    if Path.endsWithSlash path && tree.present l == .file then .error .notDirectory
    else .ok l

theorem resolve_eq_reached (tree : FileTree) (path : String) :
    tree.resolve path = (Path.check path).bind fun _ => reached tree path :=
  rfl

section

variable {path name : String}

theorem EndsWithName.fileName (h : EndsWithName path name) : FileName name := by
  cases h with
  | alone hname => exact hname
  | inside front hname => exact hname

theorem EndsWithName.names (h : EndsWithName path name) :
    ∃ front, Path.names path = front ++ [name] := by
  cases h with
  | alone hname => exact ⟨[], names_of_inPath hname.toInPath⟩
  | inside front hname =>
      exact ⟨Path.names front, by rw [names_append_slash, names_of_inPath hname.toInPath]⟩

theorem EndsWithName.noSlash (h : EndsWithName path name) : Path.endsWithSlash path = false := by
  cases h with
  | alone hname =>
      have h := endsWithSlash_append hname.toInPath ""
      rwa [String.empty_append] at h
  | inside front hname => exact endsWithSlash_append hname.toInPath _

theorem reached_of_noSlash {tree : FileTree} (h : Path.endsWithSlash path = false) :
    reached tree path = Location.follow tree.present (origin tree path) (Path.names path) := by
  rw [reached, h]
  cases Location.follow tree.present (origin tree path) (Path.names path) <;> rfl

/-- If a path leads to a directory, a slash at its end does not matter. -/
theorem reached_eq_directory {tree : FileTree} {l : Location} (hl : tree.present l = .directory) :
    reached tree path = .ok l
      ↔ Location.follow tree.present (origin tree path) (Path.names path) = .ok l := by
  rw [reached]
  cases Location.follow tree.present (origin tree path) (Path.names path) with
  | error fault => simp [Except.bind]
  | ok k =>
      simp only [Except.bind]
      constructor
      · intro h
        split at h
        · exact absurd h (by simp)
        · exact h
      · intro h
        injection h with h
        subst h
        rw [hl, if_neg (by simp)]

end

/-! ## How a path ends -/

/-- How the names of a path end, single dots at the end not counted. -/
inductive Ending where
  /-- There is no name other than dots. -/
  | nothing
  /-- Two dots, and what is in front of them. -/
  | climb (front : List String)
  /-- The name of a file, and what is in front of it. -/
  | name (front : List String) (last : String)

/-- Names with their ending. -/
inductive EndsIn : List String → Ending → Prop where
  | nothing {dots : List String} : Dots dots → EndsIn dots .nothing
  | climb {front dots : List String} : Dots dots → EndsIn (front ++ ".." :: dots) (.climb front)
  | name {front dots : List String} {last : String} : Dots dots → FileName last →
      EndsIn (front ++ last :: dots) (.name front last)

theorem not_dots {front dots : List String} {name : String} (hname : name ≠ ".") :
    ¬ Dots (front ++ name :: dots) :=
  fun h => hname (h name (by simp))

theorem EndsIn.unique {names : List String} {ending ending' : Ending} (h : EndsIn names ending)
    (h' : EndsIn names ending') : ending = ending' := by
  cases h with
  | nothing hdots =>
      cases h' with
      | nothing _ => rfl
      | climb _ => exact absurd hdots (not_dots (by decide))
      | name _ hlast => exact absurd hdots (not_dots hlast.ne_dot)
  | @climb front dots hdots =>
      generalize hnames : front ++ ".." :: dots = names at h'
      cases h' with
      | nothing hdots' => exact absurd (hnames ▸ hdots') (not_dots (by decide))
      | climb hdots' => rw [(last_unique hnames hdots hdots' (by decide) (by decide)).1]
      | name hdots' hlast =>
          have hsame := (last_unique hnames hdots hdots' (by decide) hlast.ne_dot).2.1
          exact absurd hsame.symm hlast.ne_dots
  | @name front dots last hdots hlast =>
      generalize hnames : front ++ last :: dots = names at h'
      cases h' with
      | nothing hdots' => exact absurd (hnames ▸ hdots') (not_dots hlast.ne_dot)
      | climb hdots' =>
          have hsame := (last_unique hnames hdots hdots' hlast.ne_dot (by decide)).2.1
          exact absurd hsame hlast.ne_dots
      | name hdots' hlast' =>
          obtain ⟨rfl, rfl, _⟩ := last_unique hnames hdots hdots' hlast.ne_dot hlast'.ne_dot
          rfl

theorem EndsWithName.endsIn {path name : String} (h : EndsWithName path name) :
    ∃ front, Path.names path = front ++ [name] ∧ EndsIn (Path.names path) (.name front name) := by
  obtain ⟨front, hfront⟩ := h.names
  refine ⟨front, hfront, ?_⟩
  rw [hfront]
  exact .name (fun x hx => absurd hx List.not_mem_nil) h.fileName

/-! ## Taking the path of a log apart -/

/-- The names that lead to the log. -/
def Ending.log : Ending → List String
  | .nothing => [defaultName]
  | .climb front => front ++ [defaultName]
  | .name front last => front ++ [last]

/-- Where they lead from. -/
def Ending.start (tree : FileTree) (path : String) : Ending → Location
  | .nothing => tree.workingDirectory
  | .climb _ | .name _ _ => origin tree path

/-- The log file that a path is taken for. -/
inductive LogOf (path : String) : Ending → LogFile → Prop where
  | nothing : LogOf path .nothing ⟨".", defaultName⟩
  | climb {directory : String} {front : List String} : InFront path directory front →
      LogOf path (.climb front) ⟨directory, defaultName⟩
  | name {directory last : String} {front : List String} : InFront path directory front →
      FileName last → LogOf path (.name front last) ⟨directory, last⟩

theorem logOf_ofPath (path : String) :
    ∃ ending, EndsIn (Path.names path) ending ∧ LogOf path ending (ofPath path) := by
  have hsplits := splits_split path
  rw [ofPath]
  generalize Path.split path = parts at hsplits
  cases hsplits with
  | nameless hdots => exact ⟨.nothing, .nothing hdots, .nothing⟩
  | @named directory last front dots hnames hdots hlast hdot hfront =>
      rw [hnames]
      by_cases hclimb : last = ".."
      · subst hclimb
        exact ⟨.climb front, .climb hdots, .climb hfront⟩
      · have hname : FileName last := ⟨hlast, hdot, hclimb⟩
        refine ⟨.name front last, .name hdots hname, ?_⟩
        split
        · rename_i heq
          exact absurd heq (by simp)
        · rename_i heq
          simp only [Prod.mk.injEq, Option.some.injEq] at heq
          exact absurd heq.2 hclimb
        · rename_i heq
          simp only [Prod.mk.injEq, Option.some.injEq] at heq
          obtain ⟨rfl, rfl⟩ := heq
          exact .name hfront hname

example : ofPath "logs/." = ⟨".", "logs"⟩ := by decide +kernel
example : ofPath "logs/.." = ⟨"logs", defaultName⟩ := by decide +kernel
example : ofPath "/" = ⟨".", defaultName⟩ := by decide +kernel

section

variable {path : String} {ending : Ending} {log : LogFile}

theorem LogOf.fileName (h : LogOf path ending log) : FileName log.name := by
  cases h with
  | nothing => exact fileName_defaultName
  | climb _ => exact fileName_defaultName
  | name _ hlast => exact hlast

theorem LogOf.name_eq {front : List String} {last : String}
    (h : LogOf path (.name front last) log) : log.name = last := by
  cases h with
  | name _ _ => rfl

theorem reached_path (h : FileName log.name) (tree : FileTree) :
    reached tree log.path = Location.follow tree.present (origin tree log.directory)
      (Path.names log.directory ++ [log.name]) := by
  rw [LogFile.path, reached_of_noSlash (endsWithSlash_join h.toInPath), names_join h.toInPath,
    origin, isAbsolute_join h.toInPath, ← origin]

theorem reached_of_inFront {directory name : String} {front : List String}
    (h : InFront path directory front) (hname : FileName name) (tree : FileTree) :
    reached tree (LogFile.path ⟨directory, name⟩)
      = Location.follow tree.present (origin tree path) (front ++ [name]) := by
  rw [reached_path hname, origin, h.isAbsolute, ← origin]
  exact h.follow _ _ name []

theorem LogOf.reached (h : LogOf path ending log) (tree : FileTree) :
    reached tree log.path = Location.follow tree.present (ending.start tree path) ending.log := by
  cases h with
  | nothing =>
      rw [reached_path fileName_defaultName]
      have hdot : Dots (Path.names ".") := by simp [Dots, show Path.names "." = ["."] from rfl]
      exact follow_dots hdot _ _ _ []
  | climb hfront => exact reached_of_inFront hfront fileName_defaultName tree
  | name hfront hlast => exact reached_of_inFront hfront hlast tree

/-- Where the log is, for every ending of a path. -/
theorem reached_ofPath (h : EndsIn (Path.names path) ending) (tree : FileTree) :
    reached tree (ofPath path).path
      = Location.follow tree.present (ending.start tree path) ending.log := by
  obtain ⟨ending', hends, hlog⟩ := logOf_ofPath path
  rw [h.unique hends]
  exact hlog.reached tree

/-- **A log with a name is where its path leads.** -/
theorem reached_of_endsWithName {name : String} (h : EndsWithName path name) :
    (ofPath path).name = name ∧ ∀ tree, reached tree (ofPath path).path = reached tree path := by
  obtain ⟨front, hfront, hends⟩ := h.endsIn
  obtain ⟨ending, hends', hlog⟩ := logOf_ofPath path
  obtain rfl := hends.unique hends'
  refine ⟨hlog.name_eq, fun tree => ?_⟩
  rw [hlog.reached, reached_of_noSlash h.noSlash, hfront]
  rfl

end

/-! ## The directory that a path names -/

theorem child_inj {l m : Location} {name : String} (h : FileName name)
    (heq : l.child name = m.child name) : l = m := by
  rw [← parent_child l h.noSlash, heq, parent_child m h.noSlash]

theorem Leads.eq_child {l next : Location} {name : String} (h : Leads l name next)
    (hname : FileName name) : next = l.child name := by
  cases h with
  | here => exact absurd rfl hname.ne_dot
  | up => exact absurd rfl hname.ne_dots
  | down _ => rfl

theorem follow_name_eq_ok {present : Location → Presence} {l k : Location} {front : List String}
    {name : String} (h : FileName name) :
    Location.follow present l (front ++ [name]) = .ok k
      ↔ ∃ m, Location.follow present l front = .ok m ∧ present m = .directory
        ∧ name.utf8ByteSize ≤ Path.maxName ∧ k = m.child name := by
  rw [follow_append_eq_ok]
  refine exists_congr fun m => and_congr_right fun _ => ?_
  rw [follow_cons_eq_ok]
  constructor
  · rintro ⟨hm, next, hleads, hnext⟩
    injection hnext with hnext
    subst hnext
    refine ⟨hm, ?_, hleads.eq_child h⟩
    cases hleads with
    | here => exact absurd rfl h.ne_dot
    | up => exact absurd rfl h.ne_dots
    | down hproper => exact hproper.length
  · rintro ⟨hm, hlength, rfl⟩
    exact ⟨hm, _, .down ⟨h.ne_dot, h.ne_dots, hlength⟩, rfl⟩

/-- The path leads to a directory, and the log is in it under the name that logs have. -/
def Inside (tree : FileTree) (path : String) (k : Location) : Prop :=
  ∃ l, reached tree path = .ok l ∧ tree.present l = .directory ∧ k = l.child defaultName

theorem inside_iff {tree : FileTree} {path : String} {k : Location} :
    Inside tree path k
      ↔ ∃ l, Location.follow tree.present (origin tree path) (Path.names path) = .ok l
        ∧ tree.present l = .directory ∧ k = l.child defaultName := by
  refine exists_congr fun l => ?_
  constructor
  · rintro ⟨hl, hpresent, hk⟩
    exact ⟨(reached_eq_directory hpresent).mp hl, hpresent, hk⟩
  · rintro ⟨hl, hpresent, hk⟩
    exact ⟨(reached_eq_directory hpresent).mpr hl, hpresent, hk⟩

/-- The directory of a log is the one to which the last name leads. -/
theorem Inside.leads {tree : FileTree} {path name : String} {front dots : List String}
    {m k : Location} (h : Inside tree path k) (hnames : Path.names path = front ++ name :: dots)
    (hdots : Dots dots)
    (hm : Location.follow tree.present (origin tree path) front = .ok m) :
    ∃ next, Leads m name next ∧ k = next.child defaultName := by
  obtain ⟨l, hl, _, hk⟩ := inside_iff.mp h
  rw [hnames] at hl
  obtain ⟨m', hm', hlast⟩ := follow_append_eq_ok.mp hl
  rw [hm] at hm'
  injection hm' with hm'
  subst hm'
  obtain ⟨_, next, hleads, hrest⟩ := follow_cons_eq_ok.mp hlast
  obtain rfl := eq_of_follow_dots hdots hrest
  exact ⟨l, hleads, hk⟩

/-- The paths whose log is in the directory to which they lead. -/
def Ending.Kept (tree : FileTree) (path : String) : Ending → Prop
  | .nothing => origin tree path = tree.workingDirectory
  | .climb front => Location.follow tree.present (origin tree path) front = .ok .root
  | .name _ _ => False

/-- **A log that is to be in a directory is in it for few paths only.** -/
theorem inside_iff_kept {tree : FileTree} {path : String} {ending : Ending} {k : Location}
    (h : EndsIn (Path.names path) ending) (hk : reached tree (ofPath path).path = .ok k) :
    Inside tree path k ↔ ending.Kept tree path := by
  rw [reached_ofPath h] at hk
  generalize hnames : Path.names path = names at h
  cases h with
  | nothing hdots =>
      have hk : Location.follow tree.present tree.workingDirectory ([] ++ [defaultName]) = .ok k :=
        hk
      obtain ⟨m, hm, hpresent, _, rfl⟩ := (follow_name_eq_ok fileName_defaultName).mp hk
      injection hm with hm
      subst hm
      rw [inside_iff, hnames]
      constructor
      · rintro ⟨l, hl, _, hchild⟩
        rw [Ending.Kept, ← eq_of_follow_dots hdots hl]
        exact (child_inj fileName_defaultName hchild).symm
      · intro hsame
        refine ⟨tree.workingDirectory, ?_, hpresent, rfl⟩
        rw [hsame]
        exact follow_dots_of_present hdots hpresent
  | climb hdots =>
      obtain ⟨m, hm, hpresent, _, rfl⟩ := (follow_name_eq_ok fileName_defaultName).mp hk
      rw [Ending.start] at hm
      constructor
      · intro hinside
        obtain ⟨next, hleads, hchild⟩ := hinside.leads hnames hdots hm
        obtain rfl := hleads.eq_parent rfl
        rw [Ending.Kept, hm, parent_eq_self (child_inj fileName_defaultName hchild).symm]
      · intro hroot
        rw [Ending.Kept, hm] at hroot
        injection hroot with hroot
        subst hroot
        rw [inside_iff, hnames]
        refine ⟨.root, follow_append_eq_ok.mpr ⟨.root, hm, ?_⟩, hpresent, rfl⟩
        exact follow_cons_eq_ok.mpr ⟨hpresent, .root, .up, follow_dots_of_present hdots hpresent⟩
  | name hdots hlast =>
      obtain ⟨m, hm, hpresent, _, rfl⟩ := (follow_name_eq_ok hlast).mp hk
      rw [Ending.start] at hm
      refine iff_of_false (fun hinside => ?_) not_false
      obtain ⟨next, hleads, hchild⟩ := hinside.leads hnames hdots hm
      obtain rfl := hleads.eq_child hlast
      exact child_ne_self _ _ hchild.symm

/-! ## Opening the log -/

/-- The directory of the log is there. -/
structure Prepared (log : LogFile) (tree made : FileTree) (directory : Location) : Prop where
  check : Path.check log.path = .ok ()
  make : tree.makeDirectories log.directory = (made, .ok directory)
  length : log.name.utf8ByteSize ≤ Path.maxName

/-- What opening a log comes to. -/
inductive Opens (log : LogFile) (tree : FileTree) : FileTree × Except FileFault Unit → Prop where
  | continued {made : FileTree} {directory : Location} : Prepared log tree made directory →
      made.present (directory.child log.name) = .file → Opens log tree (made, .ok ())
  | begun {made : FileTree} {directory : Location} : Prepared log tree made directory →
      made.present (directory.child log.name) = .missing →
      Opens log tree (made.add (directory.child log.name) (.file .empty), .ok ())
  | fails (made : FileTree) (fault : FileFault) : Opens log tree (made, .error fault)

theorem opens_openIn (log : LogFile) (tree : FileTree) : Opens log tree (log.openIn tree) := by
  rw [openIn]
  split
  · exact .fails _ _
  · rename_i hcheck
    split
    · exact .fails _ _
    · rename_i made directory hmake
      split
      · exact .fails _ _
      · rename_i hlength
        have hprepared : Prepared log tree made directory :=
          ⟨hcheck, hmake, Nat.le_of_not_lt hlength⟩
        dsimp only
        split
        · exact .fails _ _
        · rename_i hfile
          exact .continued hprepared hfile
        · rename_i hmissing
          exact .begun hprepared hmissing

/-- There is a file at the location now. All else was there before, except for directories. -/
structure Opened (tree tree' : FileTree) (k : Location) : Prop extends Grows tree tree' where
  present : tree'.present k = .file
  file : ∀ l content, tree'.entry? l = some (.file content) →
    tree.entry? l = some (.file content) ∨ tree.entry? l = none ∧ l = k ∧ content = .empty

section

variable {tree tree' made : FileTree} {log : LogFile} {directory : Location}

theorem Prepared.resolve (h : Prepared log tree made directory) (hrooted : Rooted tree)
    (hname : FileName log.name) :
    made.resolve log.path = .ok (directory.child log.name) :=
  resolve_join hrooted h.make hname.toInPath ⟨hname.ne_dot, hname.ne_dots, h.length⟩ h.check

theorem Prepared.addsDirectories (h : Prepared log tree made directory) :
    AddsDirectories tree made := by
  have hadds := addsDirectories_makeDirectories tree log.directory
  rwa [h.make] at hadds

/-- A log that could be opened is where its path leads. -/
theorem opened_of_openIn (h : Rooted tree) (hname : FileName log.name)
    (hopen : log.openIn tree = (tree', .ok ())) :
    ∃ k, tree'.resolve log.path = .ok k ∧ Opened tree tree' k := by
  have hopens := opens_openIn log tree
  rw [hopen] at hopens
  cases hopens with
  | continued hprepared hfile =>
      have hadds := hprepared.addsDirectories
      exact ⟨_, hprepared.resolve h hname, hadds.toGrows, hfile,
        fun l content hl => .inl (hadds.file l content hl)⟩
  | @begun made directory hprepared hmissing =>
      have hadds := hprepared.addsDirectories
      have hnone := entry?_of_missing hmissing
      have hgrows := Grows.add made (directory.child log.name) (.file .empty)
      refine ⟨directory.child log.name,
        hgrows.resolve (endsWithSlash_join hname.toInPath) (hprepared.resolve h hname),
        hadds.toGrows.trans hgrows, ?_, ?_⟩
      · rw [FileTree.present, entry?_add_eq_some.mpr (.inr ⟨hnone, rfl, rfl⟩)]
      · intro l content hl
        rcases entry?_add_eq_some.mp hl with hl | ⟨hl, hlog, hcontent⟩
        · exact .inl (hadds.file l content hl)
        · injection hcontent with hcontent
          exact .inr ⟨hadds.entry_eq_none hl, hlog, hcontent.symm⟩

/-- Where a directory is, no log can be opened. -/
theorem not_opened_of_directory {k : Location} (h : Rooted tree) (hname : FileName log.name)
    (hk : reached tree log.path = .ok k) (hdirectory : tree.present k = .directory) :
    log.openIn tree ≠ (tree', .ok ()) := by
  intro hopen
  obtain ⟨k', hpath, hopened⟩ := opened_of_openIn h hname hopen
  have hnoSlash : Path.endsWithSlash log.path = false := endsWithSlash_join hname.toInPath
  obtain ⟨hcheck, _, _⟩ := resolve_eq_ok.mp hpath
  have hbefore : tree.resolve log.path = .ok k := by
    rw [resolve_eq_reached, hcheck]
    exact hk
  rw [hopened.toGrows.resolve hnoSlash hbefore] at hpath
  injection hpath with hpath
  subst hpath
  have hafter := hopened.toGrows.present hdirectory
  rw [hopened.present] at hafter
  exact absurd hafter (by simp)

end

/-! ## The log that the settings ask for -/

theorem logFile?_of_visible {s : Settings} {path : String}
    (hs : ∃ c ∈ s.logging.file.toList, Text.isBlank c = false)
    (hpath : TrimsTo s.logging.file.toList path.toList) :
    s.logFile? = some (ofPath path) := by
  have htrim : Text.trim s.logging.file = path := by
    rw [Text.trim, ← trimsTo_iff.mp hpath, String.ofList_toList]
  have hne : path ≠ "" := by
    intro hempty
    obtain ⟨c, hc, hblank⟩ := hs
    have hall := trimmed_eq_nil_iff.mp ((trimsTo_iff.mp hpath).symm.trans
      (String.toList_eq_nil_iff.mpr hempty)) c hc
    rw [hblank] at hall
    exact absurd hall (by simp)
  rw [Settings.logFile?]
  simp only [htrim]
  rw [if_neg (by simpa [String.isEmpty_iff] using hne)]

/-- **The log of a path.** Let the settings have a path for the log, blanks around it not counted.

If it ends with the name of a file, the log has this name, and its directory and name lead where the
path leads. For any path, the log is found where `Ending.log` says, which depends only on how the
path ends. So if the path leads to a directory, the log is in it exactly if the path is `Kept`: if
it has no names and leads to the working directory, or ends with two dots in the root.

Opening the log, if it succeeds, leaves a file there, and there is no other file that was not there
before. It does not succeed where a directory is. -/
theorem log_of_settings (s : Settings)
    (hs : ∃ c ∈ s.logging.file.toList, Text.isBlank c = false) :
    ∃ (path : String) (ending : Ending) (log : LogFile),
      TrimsTo s.logging.file.toList path.toList ∧ EndsIn (Path.names path) ending
        ∧ s.logFile? = some log
        ∧ (∀ name, EndsWithName path name →
          log.name = name ∧ ∀ tree, reached tree log.path = reached tree path)
        ∧ (∀ tree, reached tree log.path
          = Location.follow tree.present (ending.start tree path) ending.log)
        ∧ (∀ tree k, reached tree log.path = .ok k →
          (Inside tree path k ↔ ending.Kept tree path))
        ∧ (∀ tree, Rooted tree →
          (∀ tree', log.openIn tree = (tree', .ok ()) →
            ∃ k, tree'.resolve log.path = .ok k ∧ Opened tree tree' k)
          ∧ ∀ k, reached tree log.path = .ok k → tree.present k = .directory →
            ∀ tree', log.openIn tree ≠ (tree', .ok ())) := by
  have htrim : TrimsTo s.logging.file.toList (Text.trim s.logging.file).toList := by
    rw [Text.trim, String.toList_ofList]
    exact trimsTo_trimmed _
  generalize Text.trim s.logging.file = path at htrim
  obtain ⟨ending, hends, hlog⟩ := logOf_ofPath path
  refine ⟨path, ending, ofPath path, htrim, hends, logFile?_of_visible hs htrim,
    fun name => reached_of_endsWithName, hlog.reached, fun tree k => inside_iff_kept hends,
    fun tree hrooted => ⟨fun tree' => opened_of_openIn hrooted hlog.fileName, ?_⟩⟩
  intro k hk hdirectory tree'
  exact not_opened_of_directory hrooted hlog.fileName hk hdirectory

/-- The settings with a path for the log. -/
def loggingTo (file : String) : Settings :=
  { Settings.standard with logging := ⟨"info", file⟩ }

theorem log_of_two_paths :
    (∃ log, (loggingTo " logs//./today.log\t").logFile? = some log ∧ log.name = "today.log"
      ∧ ∀ tree, reached tree log.path = reached tree "logs//./today.log")
    ∧ ∃ log, (loggingTo "logs/.").logFile? = some log
      ∧ ∀ tree k, reached tree log.path = .ok k → ¬ Inside tree "logs/." k := by
  constructor
  · obtain ⟨path, ending, log, htrim, _, hlog, hname, _⟩ :=
      log_of_settings (loggingTo " logs//./today.log\t") ⟨'l', by decide, by decide⟩
    have hpath : path.toList = "logs//./today.log".toList :=
      (trimsTo_iff.mp htrim).trans (by decide +kernel)
    rw [String.toList_inj] at hpath
    subst hpath
    have hfile : FileName "today.log" := ⟨⟨by decide, by decide⟩, by decide, by decide⟩
    obtain ⟨hlast, hreached⟩ := hname "today.log" (.inside "logs//." hfile)
    exact ⟨log, hlog, hlast, hreached⟩
  · obtain ⟨path, ending, log, htrim, hends, hlog, _, _, hinside, _⟩ :=
      log_of_settings (loggingTo "logs/.") ⟨'l', by decide, by decide⟩
    have hpath : path.toList = "logs/.".toList := (trimsTo_iff.mp htrim).trans (by decide +kernel)
    rw [String.toList_inj] at hpath
    subst hpath
    have hfile : FileName "logs" := ⟨⟨by decide, by decide⟩, by decide, by decide⟩
    have hdots : Dots ["."] := List.forall_mem_singleton.mpr rfl
    have hnames : Path.names "logs/." = [] ++ "logs" :: ["."] := by rfl
    rw [hnames] at hends
    obtain rfl := hends.unique (.name hdots hfile)
    exact ⟨log, hlog, fun tree k hk => (hinside tree k hk).mp⟩

/-- A working directory with a directory for logs. -/
def withLogs : FileTree := ((FileTree.empty "/home").makeDirectories "logs").1

/-- What happens to a log that is to be in a directory: if the directory is not there yet, a file
with its name is made, and if it is there, the log cannot be opened. -/
theorem log_in_place_of_directory :
    ∃ log, (loggingTo "logs/").logFile? = some log
      ∧ (log.openIn (.empty "/home")).1.files = [("logs", .empty)]
      ∧ ∃ l, withLogs.present l = .directory ∧ reached withLogs "logs/" = .ok l
        ∧ reached withLogs log.path = .ok l ∧ ¬ Inside withLogs "logs/" l
        ∧ (log.openIn withLogs).2 = .error .isDirectory := by
  have hdirectory : reached withLogs "logs/" = .ok ⟨"/home/logs"⟩ := by rfl
  refine ⟨⟨".", "logs"⟩, by decide +kernel, by rfl, _, by decide +kernel, hdirectory, by rfl, ?_,
    by rfl⟩
  rintro ⟨l, hl, _, hchild⟩
  rw [hdirectory] at hl
  injection hl with hl
  subst hl
  exact child_ne_self _ _ hchild.symm

end PadMapping.Proofs
