import PadMapping.Proofs.Keys
import PadMapping.Toml.Document

/-!
# No key is given twice

A document in which a key is given twice is refused, whichever way the two are written: as lines
below one header, as parts of keys with dots, as headers, or inside braces. So in a document that
is read, what stands behind a key is all that the document says about it, and where in its table
the key stands does not matter.

A document grows by one line after another, and every line changes one table of it, the one to
which its header and its dots lead. So it is enough that such a change keeps the tables of an
unfinished document as they should be (`uniqueItems_put`, `uniqueItems_update`); the rest follows
the readers.
-/

namespace PadMapping.Proofs

open Toml

/-! ## Tables without doubled keys -/

/-- No table in a value has a key twice. -/
inductive UniqueKeys : Value → Prop where
  | text (s : String) : UniqueKeys (.text s)
  | integer (n : Int) : UniqueKeys (.integer n)
  | float (x : Double) : UniqueKeys (.float x)
  | boolean (b : Bool) : UniqueKeys (.boolean b)
  | time : UniqueKeys .time
  | array {items : List Value} : (∀ v ∈ items, UniqueKeys v) → UniqueKeys (.array items)
  | table {members : Table} : (members.map Prod.fst).Nodup → (∀ m ∈ members, UniqueKeys m.2) →
      UniqueKeys (.table members)

/-- No table in an unfinished document has a key twice. -/
inductive UniqueItem : Item → Prop where
  | value {v : Value} : UniqueKeys v → UniqueItem (.value v)
  | table {origin : Origin} {items : Items} : (items.map Prod.fst).Nodup →
      (∀ m ∈ items, UniqueItem m.2) → UniqueItem (.table origin items)
  | tables {elements : List Items} : (∀ items ∈ elements, (items.map Prod.fst).Nodup) →
      (∀ items ∈ elements, ∀ m ∈ items, UniqueItem m.2) → UniqueItem (.tables elements)

/-- An unfinished table without doubled keys in it. -/
structure UniqueItems (items : Items) : Prop where
  keys : (items.map Prod.fst).Nodup
  inner : ∀ m ∈ items, UniqueItem m.2

/-- A change of a table that doubles no key. -/
def KeepsUnique (f : Items → Option Items) : Prop :=
  ∀ {items new : Items}, UniqueItems items → f items = some new → UniqueItems new

section

variable {items new inner : Items} {elements : List Items} {origin : Origin} {item : Item}
  {v : Value} {name key : String}

theorem uniqueItem_table (h : UniqueItems items) : UniqueItem (.table origin items) :=
  .table h.keys h.inner

theorem uniqueItem_tables (h : ∀ items ∈ elements, UniqueItems items) :
    UniqueItem (.tables elements) :=
  .tables (fun items hmem => (h items hmem).keys) fun items hmem => (h items hmem).inner

theorem UniqueItem.ofTable (h : UniqueItem (.table origin items)) : UniqueItems items := by
  cases h with
  | table hkeys hinner => exact ⟨hkeys, hinner⟩

theorem UniqueItem.ofTables (h : UniqueItem (.tables elements)) :
    ∀ items ∈ elements, UniqueItems items := by
  cases h with
  | tables hkeys hinner => exact fun items hmem => ⟨hkeys items hmem, hinner items hmem⟩

theorem uniqueItems_nil : UniqueItems [] := ⟨List.nodup_nil, by simp⟩

/-! ## Changes of one table -/

theorem UniqueItems.get (h : UniqueItems items) (hget : items.get? key = some item) :
    UniqueItem item :=
  h.inner (key, item) (mem_of_lookup hget)

theorem UniqueItems.append (h : UniqueItems items) (hnew : items.get? key = none)
    (hitem : UniqueItem item) : UniqueItems (items.append key item) := by
  refine ⟨nodup_concat h.keys (lookup_eq_none_iff_notMem.mp hnew), ?_⟩
  intro m hm
  rcases List.mem_append.mp hm with hold | hlast
  · exact h.inner m hold
  · rw [List.mem_singleton.mp hlast]
    exact hitem

theorem UniqueItems.replace (h : UniqueItems items) (hitem : UniqueItem item) :
    UniqueItems (items.replace key item) := by
  have hfst : (items.replace key item).map Prod.fst = items.map Prod.fst := by
    rw [Items.replace, List.map_map]
    refine List.map_congr_left fun m _ => ?_
    simp only [Function.comp_apply]
    split <;> rfl
  refine ⟨hfst ▸ h.keys, ?_⟩
  intro m hm
  obtain ⟨old, hold, rfl⟩ := List.mem_map.mp hm
  dsimp only
  split
  · exact hitem
  · exact h.inner old hold

theorem UniqueItems.filter (h : UniqueItems items) (p : String × Item → Bool) :
    UniqueItems (items.filter p) :=
  ⟨h.keys.sublist (List.filter_sublist.map _), fun m hm => h.inner m (List.mem_filter.mp hm).1⟩

theorem uniqueItems_updateLast {f : Items → Option Items} {changed : List Items}
    (hf : KeepsUnique f) (h : ∀ items ∈ elements, UniqueItems items)
    (hchange : Items.updateLast f elements = some changed) :
    ∀ items ∈ changed, UniqueItems items := by
  simp only [Items.updateLast, Option.bind_eq_bind, Option.bind_eq_some_iff, Option.pure_def,
    Option.some.injEq] at hchange
  obtain ⟨last, hlast, new, hnew, rfl⟩ := hchange
  intro items hmem
  rcases List.mem_append.mp hmem with hfront | hback
  · exact h items (List.dropLast_subset _ hfront)
  · rw [List.mem_singleton.mp hback]
    exact hf (h last (List.mem_of_getLast? hlast)) hnew

/-- A key with dots adds its last name to a table, which must not have it yet, and changes the
tables on the way to it. -/
theorem uniqueItems_put (hv : UniqueKeys v) (path : List String) (addable : Bool) :
    KeepsUnique (Items.put addable key v path) := by
  induction path generalizing addable with
  | nil =>
      intro items new h hput
      rw [Items.put] at hput
      split at hput
      · exact absurd hput (by simp)
      · rename_i hfree
        have hnew : items.get? key = none := by
          cases hget : items.get? key with
          | none => rfl
          | some item => exact absurd (by simp [hget]) hfree
        rw [← Option.some.inj hput]
        exact h.append hnew (.value hv)
  | cons name path ih =>
      intro items new h hput
      rw [Items.put] at hput
      split at hput
      · rename_i hnew
        obtain ⟨inner, hinner, ⟨⟩⟩ := Option.bind_eq_some_iff.mp hput
        exact h.append hnew (uniqueItem_table (ih true uniqueItems_nil hinner))
      · rename_i old hget
        obtain ⟨inner, hinner, ⟨⟩⟩ := Option.bind_eq_some_iff.mp hput
        exact h.replace (uniqueItem_table (ih true (h.get hget).ofTable hinner))
      · rename_i old hget
        obtain ⟨inner, hinner, ⟨⟩⟩ := Option.bind_eq_some_iff.mp hput
        exact h.replace (uniqueItem_table (ih false (h.get hget).ofTable hinner))
      · rename_i old hget
        obtain ⟨changed, hchange, ⟨⟩⟩ := Option.bind_eq_some_iff.mp hput
        exact h.replace (uniqueItem_tables
          (uniqueItems_updateLast (ih false) (h.get hget).ofTables hchange))
      · exact absurd hput (by simp)
      · exact absurd hput (by simp)

/-- A header leads to the table that it changes. -/
theorem uniqueItems_update {f : Items → Option Items} (hf : KeepsUnique f) (path : List String) :
    KeepsUnique (Items.update f path) := by
  induction path with
  | nil => exact fun h hupdate => hf h hupdate
  | cons name path ih =>
      intro items new h hupdate
      rw [Items.update] at hupdate
      split at hupdate
      · rename_i hnew
        obtain ⟨inner, hinner, ⟨⟩⟩ := Option.bind_eq_some_iff.mp hupdate
        exact h.append hnew (uniqueItem_table (ih uniqueItems_nil hinner))
      · rename_i origin old hget
        obtain ⟨inner, hinner, ⟨⟩⟩ := Option.bind_eq_some_iff.mp hupdate
        exact h.replace (uniqueItem_table (ih (h.get hget).ofTable hinner))
      · rename_i old hget
        obtain ⟨changed, hchange, ⟨⟩⟩ := Option.bind_eq_some_iff.mp hupdate
        exact h.replace (uniqueItem_tables
          (uniqueItems_updateLast ih (h.get hget).ofTables hchange))
      · exact absurd hupdate (by simp)

theorem uniqueItems_openTable (key : String) : KeepsUnique (Items.openTable key) := by
  intro items new h hopen
  rw [Items.openTable] at hopen
  split at hopen
  · rename_i hnew
    rw [← Option.some.inj hopen]
    exact h.append hnew (uniqueItem_table uniqueItems_nil)
  · rename_i inner hget
    rw [← Option.some.inj hopen]
    -- The table has left its place, so its name is new again.
    have hnew : Items.get? (items.filter (·.1 != key)) key = none := by
      refine List.lookup_eq_none_iff.mpr fun m hm => ?_
      exact bne_iff_ne.mpr (bne_iff_ne.mp (List.mem_filter.mp hm).2).symm
    exact (h.filter _).append hnew (uniqueItem_table (h.get hget).ofTable)
  · exact absurd hopen (by simp)

theorem uniqueItems_openElement (key : String) : KeepsUnique (Items.openElement key) := by
  intro items new h hopen
  rw [Items.openElement] at hopen
  split at hopen
  · rename_i hnew
    rw [← Option.some.inj hopen]
    refine h.append hnew (uniqueItem_tables ?_)
    simpa using uniqueItems_nil
  · rename_i elements hget
    rw [← Option.some.inj hopen]
    refine h.replace (uniqueItem_tables fun items hmem => ?_)
    rcases List.mem_append.mp hmem with hold | hlast
    · exact (h.get hget).ofTables items hold
    · rw [List.mem_singleton.mp hlast]
      exact uniqueItems_nil
  · exact absurd hopen (by simp)

/-! ## Finished documents -/

theorem toMembers_eq (items : Items) :
    toMembers items = items.map fun (key, item) => (key, item.toValue) := by
  induction items with
  | nil => rfl
  | cons m rest ih => rw [toMembers, ih, List.map_cons]

theorem toTables_eq (elements : List Items) :
    toTables elements = elements.map fun items => .table (toMembers items) := by
  induction elements with
  | nil => rfl
  | cons items rest ih => rw [toTables, ih, List.map_cons]

theorem nodup_toMembers (h : (items.map Prod.fst).Nodup) :
    ((toMembers items).map Prod.fst).Nodup := by
  rw [toMembers_eq, List.map_map]
  exact h

theorem uniqueKeys_toMembers (h : (items.map Prod.fst).Nodup)
    (hinner : ∀ m ∈ items, UniqueKeys m.2.toValue) : UniqueKeys (.table (toMembers items)) := by
  refine .table (nodup_toMembers h) ?_
  rw [toMembers_eq]
  intro m hm
  obtain ⟨old, hold, rfl⟩ := List.mem_map.mp hm
  exact hinner old hold

theorem uniqueKeys_toValue (h : UniqueItem item) : UniqueKeys item.toValue := by
  induction h with
  | value hv => exact hv
  | table hkeys _ ih => exact uniqueKeys_toMembers hkeys ih
  | tables hkeys _ ih =>
      rw [Item.toValue, toTables_eq]
      refine .array fun v hv => ?_
      obtain ⟨items, hmem, rfl⟩ := List.mem_map.mp hv
      exact uniqueKeys_toMembers (hkeys items hmem) (ih items hmem)

theorem UniqueItems.toTable (h : UniqueItems items) : UniqueKeys (.table (toMembers items)) :=
  uniqueKeys_toMembers h.keys fun m hm => uniqueKeys_toValue (h.inner m hm)

end

/-! ## Readers -/

/-- A reader of values that gives only values in which no key is doubled. -/
def ReadsUnique (value : ValueReader) : Prop :=
  ∀ {cs rest : List Char} {v : Value}, value cs = some (v, rest) → UniqueKeys v

section

variable {cs rest : List Char} {v : Value} {value : ValueReader}

theorem uniqueKeys_integer {n : Int} (h : integer? n = some v) : UniqueKeys v := by
  rw [integer?] at h
  split at h
  · rw [← Option.some.inj h]
    exact .integer n
  · exact absurd h (by simp)

theorem uniqueKeys_float {x : Double} (h : float? x = some v) : UniqueKeys v := by
  rw [float?] at h
  split at h
  · exact absurd h (by simp)
  · rw [← Option.some.inj h]
    exact .float x

theorem readsUnique_readMoment : ReadsUnique readMoment := by
  intro cs rest v h
  obtain ⟨_, _, ⟨⟩⟩ := Option.map_eq_some_iff.mp h
  exact .time

theorem readsUnique_readSpecial : ReadsUnique readSpecial := by
  intro cs rest v h
  rw [readSpecial] at h
  split at h
  · cases h
    exact .float _
  · cases h
    exact .float _
  · exact absurd h (by simp)

theorem readsUnique_readBased : ReadsUnique readBased := by
  intro cs rest v h
  rw [readBased.eq_def] at h
  split at h
  · simp only [Option.bind_eq_bind, Option.bind_eq_some_iff, Option.pure_def, Option.some.injEq,
      Prod.mk.injEq] at h
    obtain ⟨_, _, _, _, _, hv, rfl, _⟩ := h
    exact uniqueKeys_integer hv
  · exact absurd h (by simp)

theorem readsUnique_readDecimal : ReadsUnique readDecimal := by
  intro cs rest v h
  simp only [readDecimal, Option.bind_eq_bind, Option.bind_eq_some_iff, Option.pure_def] at h
  obtain ⟨_, _, _, _, _, _, h⟩ := h
  split at h
  · obtain ⟨_, hv, ⟨⟩⟩ := Option.bind_eq_some_iff.mp h
    exact uniqueKeys_integer hv
  · obtain ⟨_, hv, ⟨⟩⟩ := Option.bind_eq_some_iff.mp h
    exact uniqueKeys_float hv

theorem readsUnique_readNumber : ReadsUnique readNumber := by
  intro cs rest v h
  simp only [readNumber, Option.orElse_eq_orElse, Option.orElse_eq_or, Option.or_eq_some_iff] at h
  rcases h with h | ⟨_, h | ⟨_, h | ⟨_, h⟩⟩⟩
  · exact readsUnique_readMoment h
  · exact readsUnique_readSpecial h
  · exact readsUnique_readBased h
  · exact readsUnique_readDecimal h

/-- What is read into an array comes from the reader of its values. -/
theorem uniqueKeys_readItems (hvalue : ReadsUnique value) {items : List Value}
    (h : readItems value cs = some (items, rest)) : ∀ v ∈ items, UniqueKeys v := by
  fun_induction readItems value cs generalizing items with
  | case1 cs hgaps => exact absurd h (by simp)
  | case2 cs after hgaps =>
      cases h
      simp
  | case3 cs start _ hgaps ih =>
      obtain ⟨⟨v, more⟩, hv, h⟩ := Option.bind_eq_some_iff.mp h
      obtain ⟨after, _, h⟩ := Option.bind_eq_some_iff.mp h
      split at h
      · split at h
        · rename_i hshorter
          obtain ⟨⟨vs, _⟩, hvs, ⟨⟩⟩ := Option.bind_eq_some_iff.mp h
          exact List.forall_mem_cons.mpr ⟨hvalue hv, ih _ hshorter hvs⟩
        · exact absurd h (by simp)
      · cases h
        exact List.forall_mem_singleton.mpr (hvalue hv)
      · exact absurd h (by simp)

theorem uniqueKeys_readAssignment (hvalue : ReadsUnique value) {key : KeyPath}
    (h : readAssignment value cs = some (key, v, rest)) : UniqueKeys v := by
  simp only [readAssignment, Option.bind_eq_bind, Option.bind_eq_some_iff, Option.pure_def] at h
  obtain ⟨_, _, _, _, _, hv, ⟨⟩⟩ := h
  exact hvalue hv

/-- Every key inside braces is put into the table that has been read so far. -/
theorem uniqueItems_readMembers (hvalue : ReadsUnique value) {items new : Items}
    (hitems : UniqueItems items) (h : readMembers value items cs = some (new, rest)) :
    UniqueItems new := by
  fun_induction readMembers value items cs generalizing new with
  | case1 items cs ih =>
      obtain ⟨⟨key, v, more⟩, hread, h⟩ := Option.bind_eq_some_iff.mp h
      obtain ⟨items', hput, h⟩ := Option.bind_eq_some_iff.mp h
      have hitems' : UniqueItems items' :=
        uniqueItems_put (uniqueKeys_readAssignment hvalue hread) key.path true hitems hput
      split at h
      · split at h
        · rename_i hshorter
          exact ih items' _ hshorter hitems' h
        · exact absurd h (by simp)
      · cases h
        exact hitems'
      · exact absurd h (by simp)

theorem readsUnique_readInline (hvalue : ReadsUnique value) : ReadsUnique (readInline value) := by
  intro cs rest v h
  rw [readInline] at h
  split at h
  · cases h
    exact .table List.nodup_nil (by simp)
  · obtain ⟨⟨items, _⟩, hmembers, ⟨⟩⟩ := Option.map_eq_some_iff.mp h
    exact (uniqueItems_readMembers hvalue uniqueItems_nil hmembers).toTable

/-- The values inside a value are read with a level less. -/
theorem readsUnique_readValue (levels : Nat) : ReadsUnique (readValue levels) := by
  induction levels using Nat.strongRecOn with
  | ind levels ih =>
      intro cs rest v h
      rw [readValue.eq_def] at h
      split at h
      · exact absurd h (by simp)
      · exact absurd h (by simp)
      · rename_i inside after
        obtain ⟨⟨items, _⟩, hitems, ⟨⟩⟩ := Option.map_eq_some_iff.mp h
        exact .array (uniqueKeys_readItems (ih inside (Nat.lt_succ_self _)) hitems)
      · rename_i inside after
        exact readsUnique_readInline (ih inside (Nat.lt_succ_self _)) h
      · cases h
        exact .boolean true
      · cases h
        exact .boolean false
      · split at h
        · cases h
          exact .text _
        · exact readsUnique_readNumber h

/-! ## Lines -/

variable {b new : Builder} {key : KeyPath}

theorem uniqueItems_assign (h : UniqueItems b.root) (hv : UniqueKeys v)
    (hassign : b.assign key v = some new) : UniqueItems new.root := by
  obtain ⟨root, hroot, ⟨⟩⟩ := Option.bind_eq_some_iff.mp hassign
  exact uniqueItems_update (uniqueItems_put hv key.path true) b.header h hroot

theorem uniqueItems_header (h : UniqueItems b.root)
    (hopen : b.openTable key = some new ∨ b.openElement key = some new) :
    UniqueItems new.root := by
  rcases hopen with hopen | hopen
  · obtain ⟨root, hroot, ⟨⟩⟩ := Option.bind_eq_some_iff.mp hopen
    exact uniqueItems_update (uniqueItems_openTable key.key) key.path h hroot
  · obtain ⟨root, hroot, ⟨⟩⟩ := Option.bind_eq_some_iff.mp hopen
    exact uniqueItems_update (uniqueItems_openElement key.key) key.path h hroot

/-- What one line does to the document. -/
theorem uniqueItems_readLine (h : UniqueItems b.root) (hline : readLine b cs = some (new, rest)) :
    UniqueItems new.root := by
  rw [readLine.eq_def] at hline
  split at hline
  · obtain ⟨_, _, ⟨⟩⟩ := Option.map_eq_some_iff.mp hline
    exact h
  · simp only [Option.bind_eq_bind, Option.bind_eq_some_iff, Option.pure_def] at hline
    obtain ⟨_, _, _, _, _, _, _, hopen, _, _, ⟨⟩⟩ := hline
    exact uniqueItems_header h (.inr hopen)
  · simp only [Option.bind_eq_bind, Option.bind_eq_some_iff, Option.pure_def] at hline
    obtain ⟨_, _, _, _, _, hopen, _, _, ⟨⟩⟩ := hline
    exact uniqueItems_header h (.inl hopen)
  · split at hline
    · cases hline
      exact h
    · simp only [Option.bind_eq_bind, Option.bind_eq_some_iff, Option.pure_def] at hline
      obtain ⟨_, hread, _, hassign, _, _, ⟨⟩⟩ := hline
      exact uniqueItems_assign h
        (uniqueKeys_readAssignment (readsUnique_readValue _) hread) hassign

/-- What all lines together do to it. -/
theorem uniqueItems_readLines (h : UniqueItems b.root) (hlines : readLines b cs = some new) :
    UniqueItems new.root := by
  fun_induction readLines b cs with
  | case1 b cs =>
      cases hlines
      exact h
  | case2 b cs line ih =>
      obtain ⟨⟨after, more⟩, hline, hlines⟩ := Option.bind_eq_some_iff.mp hlines
      dsimp only at hlines
      split at hlines
      · rename_i hshorter
        exact ih after more hshorter (uniqueItems_readLine h hline) hlines
      · exact absurd hlines (by simp)

/-- **No key is given twice.** -/
theorem uniqueKeys_parse {text : String} {document : Table}
    (h : parse? text = some document) : UniqueKeys (.table document) := by
  obtain ⟨b, hlines, rfl⟩ := Option.map_eq_some_iff.mp h
  exact (uniqueItems_readLines uniqueItems_nil hlines).toTable

end

end PadMapping.Proofs
