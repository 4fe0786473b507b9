import Mathlib.Data.List.Basic
import PadMapping.Proofs.Files.Growth

/-!
# Trees that hang together

A tree as it can be found on a disk: whatever is in it stands in a directory that is there. Making
directories and files keeps it so. In such a tree a folder that was made can be entered by its path,
and then the path of a name in the folder leads to that name, unless it is longer than a path can be.
-/

namespace PadMapping.Proofs

open FileTree

/-! ## The names of a path -/

theorem splitSlashes_append_slash (current front back : List Char) :
    Path.splitSlashes current (front ++ '/' :: back)
      = Path.splitSlashes current front ++ Path.splitSlashes [] back := by
  induction front generalizing current with
  | nil => simp [Path.splitSlashes]
  | cons c front ih =>
      rw [List.cons_append, Path.splitSlashes, Path.splitSlashes, ih, ih]
      split
      · rw [List.cons_append]
      · rfl

theorem splitSlashes_of_noSlash {current text : List Char} (h : '/' ∉ text) :
    Path.splitSlashes current text = [current.reverse ++ text] := by
  induction text generalizing current with
  | nil => simp [Path.splitSlashes]
  | cons c text ih =>
      rw [List.mem_cons, not_or] at h
      rw [Path.splitSlashes, if_neg (Ne.symm h.1), ih h.2]
      simp

theorem noSlash_of_mem_splitSlashes {current text piece : List Char} (hcurrent : '/' ∉ current)
    (h : piece ∈ Path.splitSlashes current text) : '/' ∉ piece := by
  induction text generalizing current with
  | nil =>
      rw [Path.splitSlashes, List.mem_singleton] at h
      rwa [h, List.mem_reverse]
  | cons c text ih =>
      rw [Path.splitSlashes] at h
      split at h
      · rcases List.mem_cons.mp h with rfl | h
        · rwa [List.mem_reverse]
        · exact ih (by simp) h
      · rename_i hc
        exact ih (by simp [hcurrent, Ne.symm hc]) h

theorem noSlash_of_mem_names {path name : String} (h : name ∈ Path.names path) :
    '/' ∉ name.toList := by
  obtain ⟨h, _⟩ := List.mem_filter.mp h
  obtain ⟨piece, hpiece, rfl⟩ := List.mem_map.mp h
  rw [String.toList_ofList]
  exact noSlash_of_mem_splitSlashes (by simp) hpiece

theorem names_append_slash (front back : String) :
    Path.names (front ++ "/" ++ back) = Path.names front ++ Path.names back := by
  have htext : (front ++ "/" ++ back).toList = front.toList ++ '/' :: back.toList := by simp
  rw [Path.names, Path.pieces, htext, splitSlashes_append_slash, List.map_append,
    List.filter_append]
  rfl

/-- A name that can stand in a path. -/
structure InPath (name : String) : Prop where
  ne_empty : name ≠ ""
  noSlash : '/' ∉ name.toList

section

variable {folder name : String}

theorem InPath.toList_ne_nil (h : InPath name) : name.toList ≠ [] := by
  rw [Ne, String.toList_eq_nil_iff]
  exact h.ne_empty

theorem names_of_inPath (h : InPath name) : Path.names name = [name] := by
  rw [Path.names, Path.pieces, splitSlashes_of_noSlash h.noSlash]
  simp [h.ne_empty]

theorem endsWithSlash_append (h : InPath name) (front : String) :
    Path.endsWithSlash (front ++ name) = false := by
  rw [Path.endsWithSlash, String.toList_append, List.getLast?_append_of_ne_nil _ h.toList_ne_nil]
  rw [beq_eq_false_iff_ne]
  intro hlast
  exact h.noSlash (List.mem_of_getLast? hlast)

theorem endsWithSlash_join (h : InPath name) :
    Path.endsWithSlash (Path.join folder name) = false := by
  rw [Path.join]
  split
  · exact endsWithSlash_append h folder
  · exact endsWithSlash_append h (folder ++ "/")

theorem names_join (h : InPath name) :
    Path.names (Path.join folder name) = Path.names folder ++ [name] := by
  rw [Path.join]
  split
  · rename_i hfolder
    rw [Bool.or_eq_true] at hfolder
    rcases hfolder with hempty | hslash
    · rw [beq_iff_eq.mp hempty, String.empty_append, names_of_inPath h]
      rfl
    · -- the slash at the end of the folder is the one before the name
      obtain ⟨front, hfront⟩ := List.getLast?_eq_some_iff.mp (beq_iff_eq.mp hslash)
      have hfolder : folder = String.ofList front ++ "/" ++ "" := by
        rw [← String.toList_inj, hfront]
        simp
      have hjoined : folder ++ name = String.ofList front ++ "/" ++ name := by
        rw [hfolder, String.append_empty]
      rw [hjoined, names_append_slash, hfolder, names_append_slash, names_of_inPath h]
      have hnone : Path.names "" = [] := rfl
      rw [hnone, List.append_nil]
  · rw [names_append_slash, names_of_inPath h]

theorem isAbsolute_join (h : InPath name) :
    Path.isAbsolute (Path.join folder name) = Path.isAbsolute folder := by
  by_cases hempty : folder = ""
  · rw [hempty]
    obtain ⟨c, rest, hname⟩ := List.exists_cons_of_ne_nil h.toList_ne_nil
    have hc : c ≠ '/' := by
      rintro rfl
      exact h.noSlash (by rw [hname]; simp)
    simp [Path.join, Path.isAbsolute, hname, hc]
  · have hfolder : folder.toList ≠ [] := by rwa [Ne, String.toList_eq_nil_iff]
    rw [Path.join]
    split
    · rw [Path.isAbsolute, String.toList_append, List.head?_append_of_ne_nil _ hfolder,
        Path.isAbsolute]
    · rw [Path.isAbsolute, String.toList_append, String.toList_append, List.append_assoc,
        List.head?_append_of_ne_nil _ hfolder, Path.isAbsolute]

end

theorem check_eq_ok {path : String} : Path.check path = .ok ()
    ↔ '\x00' ∉ path.toList ∧ path ≠ "" ∧ path.utf8ByteSize < Path.tooLong := by
  rw [Path.check]
  split
  · rename_i hzero
    simp [List.contains_iff_mem.mp hzero]
  · rename_i hzero
    rw [List.contains_iff_mem] at hzero
    split
    · rename_i hempty
      simp [hempty]
    · rename_i hempty
      split
      · rename_i hlong
        simp [Nat.not_lt_of_le hlong]
      · rename_i hlong
        simp [hzero, hempty, Nat.lt_of_not_le hlong]

/-- A path in a folder can be too long, but has no other flaw that shows without looking it up. -/
theorem check_join {folder name : String} (h : InPath name) (hname : '\x00' ∉ name.toList)
    (hfolder : '\x00' ∉ folder.toList)
    (hlength : (Path.join folder name).utf8ByteSize < Path.tooLong) :
    Path.check (Path.join folder name) = .ok () := by
  have hmem : ∀ c ∈ (Path.join folder name).toList,
      c ∈ folder.toList ∨ c = '/' ∨ c ∈ name.toList := by
    intro c hc
    rw [Path.join] at hc
    split at hc
    · rw [String.toList_append, List.mem_append] at hc
      tauto
    · rw [String.toList_append, String.toList_append, List.mem_append, List.mem_append] at hc
      have hslash : c ∈ "/".toList → c = '/' := by simp
      tauto
  refine check_eq_ok.mpr ⟨?_, ?_, hlength⟩
  · intro hzero
    rcases hmem _ hzero with hzero | hzero | hzero
    · exact hfolder hzero
    · exact absurd hzero (by decide)
    · exact hname hzero
  · intro hempty
    have hnames := @names_join folder name h
    have hnone : Path.names "" = [] := rfl
    rw [hempty, hnone] at hnames
    exact absurd hnames (by simp)

/-- The directory above a name in a directory is that directory. -/
theorem parent_child (l : Location) {name : String} (h : '/' ∉ name.toList) :
    (l.child name).parent = l := by
  have hreverse : ((l.child name).path.toList.reverse.dropWhile (· ≠ '/'))
      = '/' :: l.path.toList.reverse := by
    rw [Location.child, String.toList_append, String.toList_append, List.reverse_append,
      List.reverse_append, List.dropWhile_append_of_pos]
    · simp
    · intro c hc
      rw [List.mem_reverse] at hc
      simp only [ne_eq, decide_not, Bool.not_eq_true', decide_eq_false_iff_not]
      rintro rfl
      exact h hc
  rw [Location.parent, hreverse]
  simp

/-- Only the root has no other directory above it. -/
theorem parent_eq_self {l : Location} (h : l.parent = l) : l = .root := by
  have hlength : l.parent.path.toList.length ≤ l.path.toList.length - 1 := by
    have hdrop := (List.dropWhile_sublist (· ≠ '/') (l := l.path.toList.reverse)).length_le
    rw [List.length_reverse] at hdrop
    rw [Location.parent, String.toList_ofList, List.length_reverse, List.length_drop]
    exact Nat.sub_le_sub_right hdrop 1
  rw [h] at hlength
  have hempty : l.path.toList = [] := List.length_eq_zero_iff.mp (by omega)
  rw [String.toList_eq_nil_iff] at hempty
  rw [Location.root, ← hempty]

theorem child_ne_self (l : Location) (name : String) : l.child name ≠ l := by
  intro h
  have hlength := congrArg (fun k => k.path.toList.length) h
  simp only [Location.child, String.toList_append, List.length_append] at hlength
  have hslash : "/".toList.length = 1 := rfl
  omega

/-! ## Rooted trees -/

theorem present_root (tree : FileTree) : tree.present .root = .directory := by
  rw [FileTree.present, entry?_root]

/-- Whatever is there stands in a directory that is there. -/
structure Rooted (tree : FileTree) : Prop where
  workingDirectory : tree.present tree.workingDirectory = .directory
  parent : ∀ l entry, tree.entry? l = some entry → tree.present l.parent = .directory

section

variable {tree : FileTree} {directory : Location} {name : String}

theorem Rooted.climb (h : Rooted tree) (hdirectory : tree.present directory = .directory) :
    tree.present directory.parent = .directory :=
  h.parent directory .directory (entry?_of_present hdirectory)

theorem rooted_add (h : Rooted tree) (hdirectory : tree.present directory = .directory)
    (hname : '/' ∉ name.toList) (entry : Entry) :
    Rooted (tree.add (directory.child name) entry) where
  workingDirectory := (Grows.add tree _ entry).present h.workingDirectory
  parent := by
    intro l entry' hl
    apply (Grows.add tree (directory.child name) entry).present
    rcases entry?_add_eq_some.mp hl with hl | ⟨_, hl, _⟩
    · exact h.parent l entry' hl
    · rwa [hl, parent_child directory hname]

/-- What was made can be entered. -/
structure Entered (tree : FileTree) (start : Location) (names : List String) (l : Location) :
    Prop where
  present : tree.present l = .directory
  follow : Location.follow tree.present start names = .ok l

theorem Entered.cons {start next l : Location} {names : List String}
    (h : Entered tree next names l) (hstart : tree.present start = .directory)
    (hleads : Leads start name next) : Entered tree start (name :: names) l :=
  ⟨h.present, follow_cons_eq_ok.mpr ⟨hstart, next, hleads, h.follow⟩⟩

theorem rooted_makeNames {names : List String} {made : Bool} (h : Rooted tree)
    (hdirectory : tree.present directory = .directory)
    (hnames : ∀ name ∈ names, '/' ∉ name.toList) :
    Rooted (makeNames directory made names tree).1
      ∧ ∀ l, (makeNames directory made names tree).2 = .ok l →
        Entered (makeNames directory made names tree).1 directory names l := by
  induction names generalizing directory made tree with
  | nil =>
      refine ⟨h, fun l hl => ?_⟩
      injection hl with hl
      exact ⟨hl ▸ hdirectory, congrArg Except.ok hl⟩
  | cons name rest ih =>
      have hrest : ∀ name ∈ rest, '/' ∉ name.toList := fun name hname =>
        hnames name (List.mem_cons_of_mem _ hname)
      have hslash := hnames name List.mem_cons_self
      have hgrows := (addsDirectories_makeNames directory made (name :: rest) tree).toGrows
      have hname := makesName directory made name rest tree
      generalize makeNames directory made (name :: rest) tree = result at hname hgrows ⊢
      have hthere := hgrows.present hdirectory
      cases hname with
      | stays hdot =>
          subst hdot
          obtain ⟨hrooted, hentered⟩ := ih h hdirectory hrest
          exact ⟨hrooted, fun l hl => (hentered l hl).cons hthere .here⟩
      | climbs hdots =>
          subst hdots
          obtain ⟨hrooted, hentered⟩ := ih h (h.climb hdirectory) hrest
          exact ⟨hrooted, fun l hl => (hentered l hl).cons hthere .up⟩
      | enters hproper hpresent =>
          obtain ⟨hrooted, hentered⟩ := ih h hpresent hrest
          exact ⟨hrooted, fun l hl => (hentered l hl).cons hthere (.down hproper)⟩
      | makes hproper hmissing =>
          have hpresent := present_add (entry?_of_missing hmissing)
          obtain ⟨hrooted, hentered⟩ :=
            ih (rooted_add h hdirectory hslash .directory) hpresent hrest
          exact ⟨hrooted, fun l hl => (hentered l hl).cons hthere (.down hproper)⟩
      | fails fault => exact ⟨h, fun l hl => absurd hl (by simp)⟩

theorem rooted_makeDirectories (h : Rooted tree) (path : String) :
    Rooted (tree.makeDirectories path).1
      ∧ ∀ l, (tree.makeDirectories path).2 = .ok l →
        Entered (tree.makeDirectories path).1 (origin tree path) (Path.names path) l := by
  rw [makeDirectories]
  split
  · rename_i hempty
    refine ⟨h, fun l hl => ?_⟩
    injection hl with hl
    subst hl hempty
    exact ⟨h.workingDirectory, rfl⟩
  · cases Path.check path with
    | error fault => exact ⟨h, fun l hl => absurd hl (by simp)⟩
    | ok u =>
        refine rooted_makeNames h ?_ fun name hname => noSlash_of_mem_names hname
        split
        · exact present_root tree
        · exact h.workingDirectory

theorem noZero_of_makeDirectories {path : String} {l : Location}
    (h : (tree.makeDirectories path).2 = .ok l) : '\x00' ∉ path.toList := by
  rw [makeDirectories] at h
  split at h
  · rename_i hempty
    rw [hempty]
    simp
  · cases hcheck : Path.check path with
    | error fault =>
        rw [hcheck] at h
        exact absurd h (by simp)
    | ok u => exact (check_eq_ok.mp hcheck).1

/-- The path of a name in a folder that was made leads there. -/
theorem resolve_join {tree' : FileTree} {folder : String} (h : Rooted tree)
    (hmake : tree.makeDirectories folder = (tree', .ok directory)) (hname : InPath name)
    (hproper : ProperName name) (hcheck : Path.check (Path.join folder name) = .ok ()) :
    tree'.resolve (Path.join folder name) = .ok (directory.child name) := by
  obtain ⟨_, hentered⟩ := rooted_makeDirectories h folder
  have hgrows := (addsDirectories_makeDirectories tree folder).toGrows
  rw [hmake] at hentered hgrows
  obtain ⟨hpresent, hfollow⟩ := hentered directory rfl
  refine resolve_eq_ok.mpr ⟨hcheck, ?_, by rw [endsWithSlash_join hname, Bool.false_and]⟩
  rw [names_join hname, origin, isAbsolute_join hname, hgrows.workingDirectory, ← origin]
  refine follow_append_eq_ok.mpr ⟨directory, hfollow, ?_⟩
  exact follow_cons_eq_ok.mpr ⟨hpresent, _, .down hproper, rfl⟩

/-- If the path of a name in a folder leads somewhere, the folder is there. -/
theorem rooted_add_of_resolve {folder : String} {l : Location} (h : Rooted tree)
    (hpath : tree.resolve (Path.join folder name) = .ok l) (hname : InPath name)
    (hdots : name ≠ "." ∧ name ≠ "..") (entry : Entry) : Rooted (tree.add l entry) := by
  obtain ⟨_, hfollow, _⟩ := resolve_eq_ok.mp hpath
  rw [names_join hname] at hfollow
  obtain ⟨directory, _, hlast⟩ := follow_append_eq_ok.mp hfollow
  obtain ⟨hdirectory, next, hleads, hend⟩ := follow_cons_eq_ok.mp hlast
  injection hend with hend
  subst hend
  cases hleads with
  | here => exact absurd rfl hdots.1
  | up => exact absurd rfl hdots.2
  | down _ => exact rooted_add h hdirectory hname.noSlash entry

end

/-- Nothing but a working directory hangs together. -/
theorem rooted_empty (workingDirectory : String) : Rooted (FileTree.empty workingDirectory) := by
  have hroot : Rooted ⟨.root, []⟩ := by
    refine ⟨present_root _, ?_⟩
    intro l entry hl
    by_cases hl' : l = .root
    · rw [hl']
      exact present_root _
    · rw [entry?_of_ne_root hl'] at hl
      exact absurd hl (by simp)
  obtain ⟨hrooted, hentered⟩ := rooted_makeDirectories hroot workingDirectory
  rw [FileTree.empty]
  cases hmake : makeDirectories ⟨.root, []⟩ workingDirectory with
  | mk tree result =>
      rw [hmake] at hrooted hentered
      cases result with
      | error fault => exact hrooted
      | ok l => exact ⟨(hentered l rfl).present, hrooted.parent⟩

end PadMapping.Proofs
