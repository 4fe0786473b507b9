import PadMapping.Files.Tree

/-!
# Trees that grow

Nothing is ever removed from a tree of files, and nothing in it is changed: what is made comes in
addition, where nothing was before. So a path that leads somewhere leads there later as well, and
what it leads to stays what it is.

Making directories adds directories only, and adds nothing if they are there already.
-/

namespace PadMapping.Proofs

open FileTree

/-! ## Single names -/

/-- A name that an entry can have. -/
structure ProperName (name : String) : Prop where
  ne_dot : name ≠ "."
  ne_dots : name ≠ ".."
  length : name.utf8ByteSize ≤ Path.maxName

/-- Where a name leads from a location. -/
inductive Leads (l : Location) : String → Location → Prop where
  | here : Leads l "." l
  | up : Leads l ".." l.parent
  | down {name : String} : ProperName name → Leads l name (l.child name)

theorem Leads.eq_parent {l next : Location} {name : String} (h : Leads l name next)
    (hname : name = "..") : next = l.parent := by
  cases h with
  | here => exact absurd hname (by decide)
  | up => rfl
  | down hproper => exact absurd hname hproper.ne_dots

theorem follow_cons_eq_ok {present : Location → Presence} {l k : Location} {name : String}
    {rest : List String} :
    Location.follow present l (name :: rest) = .ok k ↔ present l = .directory
      ∧ ∃ next, Leads l name next ∧ Location.follow present next rest = .ok k := by
  rw [Location.follow]
  cases hl : present l with
  | missing => simp
  | file => simp
  | directory =>
      simp only [true_and]
      constructor
      · intro h
        split at h
        · rename_i hdot
          exact ⟨l, hdot ▸ .here, h⟩
        · rename_i hdot
          split at h
          · rename_i hdots
            exact ⟨l.parent, hdots ▸ .up, h⟩
          · rename_i hdots
            split at h
            · exact absurd h (by simp)
            · rename_i hlength
              exact ⟨l.child name, .down ⟨hdot, hdots, Nat.le_of_not_lt hlength⟩, h⟩
      · rintro ⟨next, hleads, h⟩
        cases hleads with
        | here => rwa [if_pos rfl]
        | up => rwa [if_neg (by decide), if_pos rfl]
        | down hname =>
            rwa [if_neg hname.ne_dot, if_neg hname.ne_dots, if_neg (Nat.not_lt_of_le hname.length)]

theorem follow_append_eq_ok {present : Location → Presence} {front back : List String}
    {l k : Location} :
    Location.follow present l (front ++ back) = .ok k
      ↔ ∃ m, Location.follow present l front = .ok m ∧ Location.follow present m back = .ok k := by
  induction front generalizing l with
  | nil => simp [Location.follow]
  | cons name front ih =>
      simp only [List.cons_append, follow_cons_eq_ok, ih]
      constructor
      · rintro ⟨hl, next, hleads, m, hfront, hback⟩
        exact ⟨m, ⟨hl, next, hleads, hfront⟩, hback⟩
      · rintro ⟨m, ⟨hl, next, hleads, hfront⟩, hback⟩
        exact ⟨hl, next, hleads, m, hfront, hback⟩

/-- What making directories comes to at the first of the names. -/
inductive MakesName (directory : Location) (made : Bool) (name : String) (rest : List String)
    (tree : FileTree) : FileTree × Except FileFault Location → Prop where
  | stays : name = "." →
      MakesName directory made name rest tree (makeNames directory made rest tree)
  | climbs : name = ".." →
      MakesName directory made name rest tree (makeNames directory.parent made rest tree)
  | enters : ProperName name → tree.present (directory.child name) = .directory →
      MakesName directory made name rest tree (makeNames (directory.child name) made rest tree)
  | makes : ProperName name → tree.present (directory.child name) = .missing →
      MakesName directory made name rest tree
        (makeNames (directory.child name) true rest (tree.add (directory.child name) .directory))
  | fails (fault : FileFault) : MakesName directory made name rest tree (tree, .error fault)

theorem makesName (directory : Location) (made : Bool) (name : String) (rest : List String)
    (tree : FileTree) :
    MakesName directory made name rest tree (makeNames directory made (name :: rest) tree) := by
  rw [makeNames]
  split
  · rename_i hdot
    exact .stays hdot
  · rename_i hdot
    split
    · rename_i hdots
      exact .climbs hdots
    · rename_i hdots
      split
      · exact .fails _
      · rename_i hlength
        have hname : ProperName name := ⟨hdot, hdots, Nat.le_of_not_lt hlength⟩
        cases hnext : tree.present (directory.child name) with
        | directory =>
            simp only [hnext]
            exact .enters hname hnext
        | file =>
            simp only [hnext]
            exact .fails _
        | missing =>
            simp only [hnext]
            split
            · exact .fails _
            · exact .makes hname hnext

/-! ## Growth -/

theorem entry?_root (tree : FileTree) : tree.entry? .root = some .directory := if_pos rfl

theorem entry?_of_ne_root {tree : FileTree} {l : Location} (h : l ≠ .root) :
    tree.entry? l = tree.entries.lookup l :=
  if_neg h

/-- A new entry stands behind all others, where only what is not there yet is looked for. -/
theorem entry?_add_eq_some {tree : FileTree} {k l : Location} {entry entry' : Entry} :
    FileTree.entry? (tree.add l entry) k = some entry'
      ↔ tree.entry? k = some entry' ∨ tree.entry? k = none ∧ k = l ∧ entry = entry' := by
  by_cases hroot : k = .root
  · rw [hroot, entry?_root, entry?_root]
    simp
  · rw [entry?_of_ne_root hroot, entry?_of_ne_root hroot, FileTree.add, List.lookup_append,
      Option.or_eq_some_iff, List.lookup_cons]
    by_cases hkl : k = l
    · simp [hkl]
    · have hne : (k == l) = false := beq_eq_false_iff_ne.mpr hkl
      simp [hne, hkl]

theorem entry?_of_present {tree : FileTree} {l : Location} (h : tree.present l = .directory) :
    tree.entry? l = some .directory := by
  rw [FileTree.present] at h
  split at h
  · exact absurd h (by simp)
  · rename_i hentry
    exact hentry
  · exact absurd h (by simp)

theorem entry?_of_missing {tree : FileTree} {l : Location} (h : tree.present l = .missing) :
    tree.entry? l = none := by
  rw [FileTree.present] at h
  split at h
  · rename_i hentry
    exact hentry
  · exact absurd h (by simp)
  · exact absurd h (by simp)

theorem present_add {tree : FileTree} {l : Location} (h : tree.entry? l = none) :
    (tree.add l .directory).present l = .directory := by
  rw [FileTree.present, entry?_add_eq_some.mpr (.inr ⟨h, rfl, rfl⟩)]

/-- Everything in the first tree is in the second one, where it was. -/
structure Grows (tree tree' : FileTree) : Prop where
  workingDirectory : tree'.workingDirectory = tree.workingDirectory
  entry : ∀ l entry, tree.entry? l = some entry → tree'.entry? l = some entry

namespace Grows

theorem refl (tree : FileTree) : Grows tree tree := ⟨rfl, fun _ _ h => h⟩

theorem trans {t₁ t₂ t₃ : FileTree} (h : Grows t₁ t₂) (h' : Grows t₂ t₃) : Grows t₁ t₃ where
  workingDirectory := h'.workingDirectory.trans h.workingDirectory
  entry := fun l entry hl => h'.entry l entry (h.entry l entry hl)

theorem add (tree : FileTree) (l : Location) (entry : Entry) : Grows tree (tree.add l entry) :=
  ⟨rfl, fun _ _ hk => entry?_add_eq_some.mpr (.inl hk)⟩

variable {tree tree' : FileTree}

theorem entry_eq_none (h : Grows tree tree') {l : Location} (hl : tree'.entry? l = none) :
    tree.entry? l = none := by
  cases hentry : tree.entry? l with
  | none => rfl
  | some entry =>
      rw [h.entry l entry hentry] at hl
      exact absurd hl (by simp)

theorem present (h : Grows tree tree') {l : Location} (hl : tree.present l = .directory) :
    tree'.present l = .directory := by
  rw [FileTree.present, h.entry l .directory (entry?_of_present hl)]

theorem follow (h : Grows tree tree') {names : List String} {l k : Location}
    (hfollow : Location.follow tree.present l names = .ok k) :
    Location.follow tree'.present l names = .ok k := by
  induction names generalizing l with
  | nil => exact hfollow
  | cons name rest ih =>
      obtain ⟨hl, next, hleads, hrest⟩ := follow_cons_eq_ok.mp hfollow
      exact follow_cons_eq_ok.mpr ⟨h.present hl, next, hleads, ih hrest⟩

end Grows

/-! ## Paths -/

/-- Where the names of a path are followed from. -/
def origin (tree : FileTree) (path : String) : Location :=
  if Path.isAbsolute path then .root else tree.workingDirectory

theorem resolve_eq (tree : FileTree) (path : String) :
    tree.resolve path = (Path.check path).bind fun _ =>
      (Location.follow tree.present (origin tree path) (Path.names path)).bind fun l =>
        if Path.endsWithSlash path && tree.present l == .file then .error .notDirectory
        else .ok l :=
  rfl

theorem resolve_eq_ok {tree : FileTree} {path : String} {l : Location} :
    tree.resolve path = .ok l ↔ Path.check path = .ok ()
      ∧ Location.follow tree.present (origin tree path) (Path.names path) = .ok l
      ∧ (Path.endsWithSlash path && tree.present l == .file) = false := by
  rw [resolve_eq]
  cases Path.check path with
  | error fault => simp [Except.bind]
  | ok u =>
      cases Location.follow tree.present (origin tree path) (Path.names path) with
      | error fault => simp [Except.bind]
      | ok k =>
          simp only [Except.bind]
          split
          · rename_i hslash
            constructor
            · exact fun h => absurd h (by simp)
            · rintro ⟨_, h, hnone⟩
              injection h with h
              rw [← h, hslash] at hnone
              exact absurd hnone (by simp)
          · rename_i hslash
            constructor
            · intro h
              injection h with h
              exact ⟨trivial, h ▸ rfl, h ▸ Bool.eq_false_iff.mpr hslash⟩
            · exact fun h => h.2.1

/-- A path leads where it led before. (If it ends with a slash, there could be a file by now.) -/
theorem Grows.resolve {tree tree' : FileTree} (h : Grows tree tree') {path : String} {l : Location}
    (hslash : Path.endsWithSlash path = false) (hpath : tree.resolve path = .ok l) :
    tree'.resolve path = .ok l := by
  obtain ⟨hcheck, hfollow, _⟩ := resolve_eq_ok.mp hpath
  refine resolve_eq_ok.mpr ⟨hcheck, ?_, by rw [hslash, Bool.false_and]⟩
  rw [origin, h.workingDirectory]
  exact h.follow hfollow

theorem read_of_entry? {tree : FileTree} {path : String} {l : Location} {content : ByteArray}
    (hpath : tree.resolve path = .ok l) (hentry : tree.entry? l = some (.file content)) :
    tree.read path = .ok content := by
  simp only [FileTree.read, hpath, bind, Except.bind, hentry]
  rfl

theorem follow_ne_alreadyExists {present : Location → Presence} {l : Location}
    {names : List String} : Location.follow present l names ≠ .error .alreadyExists := by
  induction names generalizing l with
  | nil => simp [Location.follow]
  | cons name rest ih =>
      rw [Location.follow]
      cases present l with
      | missing => simp
      | file => simp
      | directory =>
          simp only
          split
          · exact ih
          · split
            · exact ih
            · split
              · simp
              · exact ih

theorem check_ne_alreadyExists {path : String} : Path.check path ≠ .error .alreadyExists := by
  rw [Path.check]
  repeat' split
  all_goals simp

/-- To follow a path is no attempt to make anything. -/
theorem resolve_ne_alreadyExists {tree : FileTree} {path : String} :
    tree.resolve path ≠ .error .alreadyExists := by
  intro h
  rw [resolve_eq] at h
  cases hcheck : Path.check path with
  | error fault =>
      rw [hcheck] at h
      injection h with h
      exact check_ne_alreadyExists (h ▸ hcheck)
  | ok u =>
      rw [hcheck] at h
      cases hfollow : Location.follow tree.present (origin tree path) (Path.names path) with
      | error fault =>
          rw [hfollow] at h
          exact follow_ne_alreadyExists (hfollow.trans h)
      | ok k =>
          rw [hfollow] at h
          simp only [Except.bind] at h
          split at h
          · exact absurd h (by simp)
          · exact absurd h (by simp)

/-! ## New files -/

/-- There is something at a path. -/
def Taken (tree : FileTree) (path : String) : Prop :=
  ∃ l, tree.resolve path = .ok l ∧ tree.entry? l ≠ none

/-- What making a file comes to. -/
inductive Creates (tree : FileTree) (path : String) (content : ByteArray) :
    Except FileFault FileTree → Prop where
  | created {l : Location} : tree.resolve path = .ok l → tree.entry? l = none →
      Creates tree path content (.ok (tree.add l (.file content)))
  | taken : Taken tree path → Creates tree path content (.error .alreadyExists)
  | refused {fault : FileFault} : tree.resolve path = .error fault → fault ≠ .alreadyExists →
      Creates tree path content (.error fault)

theorem creates (tree : FileTree) (path : String) (content : ByteArray) :
    Creates tree path content (tree.create path content) := by
  rw [FileTree.create]
  cases hpath : tree.resolve path with
  | error fault => exact .refused hpath fun h => resolve_ne_alreadyExists (h ▸ hpath)
  | ok l =>
      simp only [bind, Except.bind]
      cases hentry : tree.entry? l with
      | none => exact .created hpath hentry
      | some entry => exact .taken ⟨l, hpath, by rw [hentry]; simp⟩

/-! ## New directories -/

/-- The second tree has more directories, but nothing else that is new. -/
structure AddsDirectories (tree tree' : FileTree) : Prop extends Grows tree tree' where
  file : ∀ l content, tree'.entry? l = some (.file content) → tree.entry? l = some (.file content)

theorem AddsDirectories.refl (tree : FileTree) : AddsDirectories tree tree :=
  ⟨.refl tree, fun _ _ h => h⟩

theorem AddsDirectories.file_iff {tree tree' : FileTree} (h : AddsDirectories tree tree')
    (l : Location) (content : ByteArray) :
    tree'.entry? l = some (.file content) ↔ tree.entry? l = some (.file content) :=
  ⟨h.file l content, h.entry l (.file content)⟩

theorem AddsDirectories.trans {t₁ t₂ t₃ : FileTree} (h : AddsDirectories t₁ t₂)
    (h' : AddsDirectories t₂ t₃) : AddsDirectories t₁ t₃ :=
  ⟨h.toGrows.trans h'.toGrows, fun l content hl => h.file l content (h'.file l content hl)⟩

theorem addsDirectories_add (tree : FileTree) (l : Location) :
    AddsDirectories tree (tree.add l .directory) where
  toGrows := .add tree l .directory
  file := by
    intro k content hk
    rcases entry?_add_eq_some.mp hk with hk | ⟨_, _, hk⟩
    · exact hk
    · exact absurd hk (by simp)

theorem addsDirectories_makeNames (directory : Location) (made : Bool) (names : List String)
    (tree : FileTree) : AddsDirectories tree (makeNames directory made names tree).1 := by
  induction names generalizing directory made tree with
  | nil => exact .refl tree
  | cons name rest ih =>
      have hname := makesName directory made name rest tree
      generalize makeNames directory made (name :: rest) tree = result at hname
      cases hname with
      | stays _ | climbs _ | enters _ _ => exact ih ..
      | makes _ _ => exact (addsDirectories_add tree _).trans (ih ..)
      | fails fault => exact .refl tree

theorem addsDirectories_makeDirectories (tree : FileTree) (path : String) :
    AddsDirectories tree (tree.makeDirectories path).1 := by
  rw [makeDirectories]
  split
  · exact .refl tree
  · cases Path.check path with
    | error fault => exact .refl tree
    | ok u => exact addsDirectories_makeNames ..

theorem present_of_follow {present : Location → Presence} {l k : Location} {names : List String}
    (h : Location.follow present l names = .ok k) (hk : present k = .directory) :
    present l = .directory := by
  cases names with
  | nil =>
      injection h with h
      rwa [h]
  | cons name rest => exact (follow_cons_eq_ok.mp h).1

theorem makeNames_of_follow {tree : FileTree} {directory k : Location} {made : Bool}
    {names : List String} (h : Location.follow tree.present directory names = .ok k)
    (hk : tree.present k = .directory) : makeNames directory made names tree = (tree, .ok k) := by
  induction names generalizing directory with
  | nil =>
      injection h with h
      rw [makeNames, h]
  | cons name rest ih =>
      obtain ⟨_, next, hleads, hrest⟩ := follow_cons_eq_ok.mp h
      have hnext := present_of_follow hrest hk
      rw [makeNames]
      cases hleads with
      | here => rw [if_pos rfl, ih hrest]
      | up => rw [if_neg (by decide), if_pos rfl, ih hrest]
      | down hname =>
          rw [if_neg hname.ne_dot, if_neg hname.ne_dots, if_neg (Nat.not_lt_of_le hname.length)]
          simp only [hnext]
          exact ih hrest

/-- Nothing is made where there is a directory already. -/
theorem makeDirectories_of_resolve {tree : FileTree} {path : String} {l : Location}
    (h : tree.resolve path = .ok l) (hl : tree.present l = .directory) :
    tree.makeDirectories path = (tree, .ok l) := by
  obtain ⟨hcheck, hfollow, _⟩ := resolve_eq_ok.mp h
  have hempty : path ≠ "" := by
    rintro rfl
    exact absurd hcheck (by simp [Path.check])
  rw [makeDirectories, if_neg hempty, hcheck]
  exact makeNames_of_follow hfollow hl

end PadMapping.Proofs
