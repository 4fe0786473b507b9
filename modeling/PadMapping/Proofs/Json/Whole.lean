import PadMapping.Json.Decode
import PadMapping.Proofs.Json.Phrase

/-!
# What is decoded is whole

A decoder meets every place where a tree breaks off, because it looks at each part of the tree or
passes over it. So it gives a value only for a whole tree, the tree of a phrase. This is shown for
each way of reading on its own: `ReadsWhole` goes from the values of the fields to the record.
-/

namespace PadMapping.Proofs

open Json

/-- The decoder gives a value for whole trees only. -/
def ReadsWhole {α : Type} (decode : Node → Decoded α) : Prop :=
  ∀ node a, decode node = .ok a → Whole node

/-! ## Putting parts together -/

/-- A key and its value are whole. -/
def WholeMember (member : Node × Node) : Prop :=
  (∃ key, member.1 = .text key none) ∧ Whole member.2

theorem whole_array {items : List Node} (h : ∀ item ∈ items, Whole item) :
    Whole (.array items none) := by
  obtain ⟨ps, hps⟩ : ∃ ps, Phrase.nodes ps = items := by
    induction items with
    | nil => exact ⟨[], rfl⟩
    | cons item items ih =>
        obtain ⟨p, hp⟩ := h item List.mem_cons_self
        obtain ⟨ps, hps⟩ := ih fun item hitem => h item (List.mem_cons_of_mem _ hitem)
        exact ⟨p :: ps, by rw [Phrase.nodes, hp, hps]⟩
  exact ⟨.array ps, by rw [Phrase.node, hps]⟩

theorem whole_object {members : List (Node × Node)} (h : ∀ m ∈ members, WholeMember m) :
    Whole (.object members none) := by
  obtain ⟨ps, hps⟩ : ∃ ps, Phrase.memberNodes ps = members := by
    induction members with
    | nil => exact ⟨[], rfl⟩
    | cons m members ih =>
        obtain ⟨⟨key, hkey⟩, p, hp⟩ := h m List.mem_cons_self
        obtain ⟨ps, hps⟩ := ih fun m hm => h m (List.mem_cons_of_mem _ hm)
        exact ⟨(key, p) :: ps, by rw [Phrase.memberNodes, hp, hps, ← hkey]⟩
  exact ⟨.object ps, by rw [Phrase.node, hps]⟩

theorem eq_none_of_checkBreak {broken : Option Break} {u : Unit} (h : checkBreak broken = .ok u) :
    broken = none := by
  cases broken with
  | none => rfl
  | some why => cases h

/-! ## Passing over values -/

mutual

theorem whole_of_skip : ∀ (node : Node) {u : Unit}, node.skip = .ok u → Whole node
  | .null, _, _ => ⟨.null, rfl⟩
  | .bool value, _, _ => ⟨.bool value, rfl⟩
  | .number (.ok numeral), _, _ => ⟨.number numeral, rfl⟩
  | .number (.error why), _, h => by
      rw [Node.skip] at h
      cases h
  | .text pieces broken, _, h => by
      rw [Node.skip] at h
      exact ⟨.text pieces, by rw [Phrase.node, eq_none_of_checkBreak h]⟩
  | .word why, _, h | .absent why, _, h => by
      rw [Node.skip] at h
      cases h
  | .array items broken, _, h => by
      rw [Node.skip] at h
      obtain ⟨_, hitems, hbroken⟩ := ok_of_bind h
      rw [eq_none_of_checkBreak hbroken]
      exact whole_array (whole_of_skipItems items hitems)
  | .object members broken, _, h => by
      rw [Node.skip] at h
      obtain ⟨_, hmembers, hbroken⟩ := ok_of_bind h
      rw [eq_none_of_checkBreak hbroken]
      exact whole_object (whole_of_skipMembers members hmembers)

theorem whole_of_skipItems : ∀ (items : List Node) {u : Unit}, skipItems items = .ok u →
    ∀ item ∈ items, Whole item
  | [], _, _ => by simp
  | item :: items, _, h => by
      rw [skipItems] at h
      obtain ⟨_, hitem, hitems⟩ := ok_of_bind h
      exact List.forall_mem_cons.mpr ⟨whole_of_skip item hitem, whole_of_skipItems items hitems⟩

theorem whole_of_skipMembers : ∀ (members : List (Node × Node)) {u : Unit},
    skipMembers members = .ok u → ∀ m ∈ members, WholeMember m
  | [], _, _ => by simp
  | (key, value) :: members, _, h => by
      rw [skipMembers] at h
      obtain ⟨_, hmember, hmembers⟩ := ok_of_bind h
      refine List.forall_mem_cons.mpr ⟨?_, whole_of_skipMembers members hmembers⟩
      unfold skipMember at hmember
      split at hmember
      · rename_i pieces broken _ hkey
        cases hkey
        -- a key that is passed over is looked at as far as to see that it ends
        obtain ⟨_, hbroken, hvalue⟩ := ok_of_bind hmember
        exact ⟨⟨pieces, by rw [eq_none_of_checkBreak hbroken]⟩, whole_of_skip value hvalue⟩
      · cases hmember
      · cases hmember

end

/-! ## Plain values -/

theorem eq_none_of_joinPieces {broken : Option Break} {pieces : List Piece} {cs : List Char}
    (h : joinPieces broken pieces = .ok cs) : broken = none := by
  fun_induction joinPieces broken pieces generalizing cs with
  | case1 =>
      obtain ⟨_, hbroken, _⟩ := ok_of_bind h
      exact eq_none_of_checkBreak hbroken
  | case2 c rest ih =>
      obtain ⟨_, hrest, _⟩ := ok_of_bind h
      exact ih hrest
  | case5 high low rest ih =>
      obtain ⟨_, hrest, _⟩ := ok_of_bind h
      exact ih hrest
  | _ => cases h

theorem eq_none_of_decodeText {broken : Option Break} {pieces : List Piece} {s : String}
    (h : decodeText pieces broken = .ok s) : broken = none := by
  rw [decodeText] at h
  cases hjoin : joinPieces broken pieces with
  | error e =>
      rw [hjoin] at h
      cases h
  | ok cs => exact eq_none_of_joinPieces hjoin

theorem mismatch_ne_ok {α : Type} (wanted : Wanted) (node : Node) (a : α) :
    node.mismatch wanted ≠ .ok a := by
  intro h
  rw [Node.mismatch] at h
  obtain ⟨_, _, hthrow⟩ := ok_of_bind h
  cases hthrow

theorem readsWhole_asText : ReadsWhole Node.asText := by
  intro node s h
  unfold Node.asText at h
  split at h
  · rename_i pieces broken
    exact ⟨.text pieces, by rw [Phrase.node, eq_none_of_decodeText h]⟩
  · exact absurd h (mismatch_ne_ok _ _ _)

theorem readsWhole_asIndex : ReadsWhole Node.asIndex := by
  intro node n h
  unfold Node.asIndex at h
  split at h
  · exact ⟨.number _, rfl⟩
  · exact absurd h (mismatch_ne_ok _ _ _)

theorem readsWhole_asNull : ReadsWhole Node.asNull := by
  intro node n h
  unfold Node.asNull at h
  split at h
  · exact ⟨.null, rfl⟩
  · exact absurd h (mismatch_ne_ok _ _ _)

theorem text_of_asKey {node : Node} {s : String} (h : node.asKey = .ok s) :
    ∃ pieces, node = .text pieces none := by
  unfold Node.asKey at h
  split at h
  · rename_i pieces broken
    exact ⟨pieces, by rw [eq_none_of_decodeText h]⟩
  · cases h
  · cases h

section

variable {α : Type} {decode : Node → Decoded α}

theorem readsWhole_orNull (h : ReadsWhole decode) : ReadsWhole (Node.orNull decode) := by
  intro node a hread
  unfold Node.orNull at hread
  split at hread
  · exact ⟨.null, rfl⟩
  · cases hdecode : decode node with
    | error e =>
        rw [hdecode] at hread
        cases hread
    | ok b => exact h _ _ hdecode

theorem mapM_cons_eq_ok_iff {node : Node} {nodes : List Node} {as : List α} :
    (node :: nodes).mapM decode = .ok as
      ↔ ∃ a rest, decode node = .ok a ∧ nodes.mapM decode = .ok rest ∧ as = a :: rest := by
  rw [List.mapM_cons]
  constructor
  · intro hread
    obtain ⟨a, hnode, hread⟩ := ok_of_bind hread
    obtain ⟨rest, hrest, hread⟩ := ok_of_bind hread
    cases hread
    exact ⟨a, rest, hnode, hrest, rfl⟩
  · rintro ⟨a, rest, hnode, hrest, rfl⟩
    rw [hnode, hrest]
    rfl

theorem whole_of_mapM (h : ReadsWhole decode) : ∀ {items : List Node} {as : List α},
    items.mapM decode = .ok as → ∀ item ∈ items, Whole item := by
  intro items
  induction items with
  | nil => simp
  | cons item items ih =>
      intro as hread
      obtain ⟨_, _, hitem, hitems, _⟩ := mapM_cons_eq_ok_iff.mp hread
      exact List.forall_mem_cons.mpr ⟨h _ _ hitem, ih hitems⟩

theorem readsWhole_asList (h : ReadsWhole decode) : ReadsWhole (Node.asList decode) := by
  intro node as hread
  unfold Node.asList at hread
  split at hread
  · obtain ⟨_, hitems, hrest⟩ := ok_of_bind hread
    obtain ⟨_, hbroken, _⟩ := ok_of_bind hrest
    rw [eq_none_of_checkBreak hbroken]
    exact whole_array (whole_of_mapM h hitems)
  · exact absurd hread (mismatch_ne_ok _ _ _)

end

/-! ## Records -/

section

variable {slots α : Type} {shape : RecordShape slots}

/-- The values of all fields are read from whole trees only. -/
def FieldsWhole (shape : RecordShape slots) : Prop :=
  ∀ key read, shape.read key = some read → ∀ state, ReadsWhole fun node => read node state

theorem whole_of_readField (h : FieldsWhole shape) {key : String} {value : Node}
    {state state' : slots} (hread : shape.readField key value state = .ok state') :
    Whole value := by
  unfold RecordShape.readField at hread
  split at hread
  · rename_i read hkey
    exact h key read hkey state value state' hread
  · obtain ⟨_, hskip, _⟩ := ok_of_bind hread
    exact whole_of_skip value hskip

theorem whole_of_readMembers (h : FieldsWhole shape) : ∀ {members : List (Node × Node)}
    {state state' : slots}, shape.readMembers state members = .ok state' →
      ∀ m ∈ members, WholeMember m := by
  intro members
  induction members with
  | nil => simp
  | cons m members ih =>
      intro state state' hread
      rw [RecordShape.readMembers] at hread
      obtain ⟨key, hkey, hread⟩ := ok_of_bind hread
      obtain ⟨_, hvalue, hrest⟩ := ok_of_bind hread
      exact List.forall_mem_cons.mpr
        ⟨⟨text_of_asKey hkey, whole_of_readField h hvalue⟩, ih hrest⟩

theorem whole_of_readItems (h : FieldsWhole shape) {broken : Option Break} :
    ∀ {items : List Node} {keys : List String} {count : Nat} {state state' : slots},
      shape.readItems broken count state keys items = .ok state' →
        broken = none ∧ ∀ item ∈ items, Whole item := by
  intro items
  induction items with
  | nil =>
      intro keys count state state' hread
      cases keys with
      | nil | cons key keys =>
          rw [RecordShape.readItems] at hread
          obtain ⟨_, hbroken, _⟩ := ok_of_bind hread
          exact ⟨eq_none_of_checkBreak hbroken, by simp⟩
  | cons item items ih =>
      intro keys count state state' hread
      cases keys with
      | nil =>
          rw [RecordShape.readItems] at hread
          cases hread
      | cons key keys =>
          rw [RecordShape.readItems] at hread
          obtain ⟨_, hitem, hrest⟩ := ok_of_bind hread
          obtain ⟨hbroken, hitems⟩ := ih hrest
          exact ⟨hbroken, List.forall_mem_cons.mpr ⟨whole_of_readField h hitem, hitems⟩⟩

theorem readsWhole_record (h : FieldsWhole shape) (finish : slots → Decoded α) :
    ReadsWhole (shape.decode finish) := by
  intro node a hread
  unfold RecordShape.decode at hread
  split at hread
  · obtain ⟨_, hmembers, hrest⟩ := ok_of_bind hread
    obtain ⟨_, hbroken, _⟩ := ok_of_bind hrest
    rw [eq_none_of_checkBreak hbroken]
    exact whole_object (whole_of_readMembers h hmembers)
  · obtain ⟨_, hitems, _⟩ := ok_of_bind hread
    obtain ⟨hbroken, hwhole⟩ := whole_of_readItems h hitems
    rw [hbroken]
    exact whole_array hwhole
  · exact absurd hread (mismatch_ne_ok _ _ _)

end

/-- A text is decoded like the phrase that it is written for. -/
theorem decodeDocument_of_written {α : Type} {decode : Node → Decoded α} {p : Phrase}
    {text : String} (h : Written p.tokens text.toList) :
    decodeDocument decode text = decode p.node := by
  rw [decodeDocument, ofText_of_written h]
  show (do let value ← decode p.node; _) = _
  cases decode p.node <;> rfl

/-- **A text is decoded only if it is written for a phrase**, and then it is decoded like it. -/
theorem decodeDocument_eq_ok_iff {α : Type} {decode : Node → Decoded α} (h : ReadsWhole decode)
    {text : String} {a : α} : decodeDocument decode text = .ok a
      ↔ ∃ p : Phrase, Written p.tokens text.toList ∧ decode p.node = .ok a := by
  constructor
  · intro hread
    rw [decodeDocument] at hread
    obtain ⟨value, hvalue, hrest⟩ := ok_of_bind hread
    -- the decoder has met every part of the tree, and what is left behind it is looked at last
    have hwhole := h _ _ hvalue
    cases hdocument : Document.ofText text with
    | mk root trailing =>
        rw [hdocument] at hvalue hrest hwhole
        cases trailing with
        | true => cases hrest
        | false =>
            cases hrest
            obtain ⟨p, hwritten, rfl⟩ := written_of_ofText hdocument hwhole
            exact ⟨p, hwritten, hvalue⟩
  · rintro ⟨p, hwritten, hdecode⟩
    rw [decodeDocument_of_written hwritten, hdecode]

end PadMapping.Proofs
