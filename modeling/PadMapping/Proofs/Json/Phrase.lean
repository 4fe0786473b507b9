import PadMapping.Json.Node
import PadMapping.Proofs.Json.Grammar

/-!
# Whole values

A phrase is a whole value as it stands in a text, up to white space and the spelling of its tokens.
A text that is written for the tokens of a phrase is read into the tree of that phrase, and nothing
is left. The other way round, a text that is read into a tree without a break is written for the
tokens of a phrase.

For the way back, the open parts say what the tokens that are left have to bring: `Closes` says what
has to come after a value that is complete, and `Remains` what has to come at any place. Reading on
by one token is one step of an induction over the tokens.
-/

namespace PadMapping.Proofs

open Json

/-- A whole value. -/
inductive Phrase where
  | null
  | bool (value : Bool)
  | number (numeral : Numeral)
  | text (pieces : List Piece)
  | array (items : List Phrase)
  | object (members : List (List Piece × Phrase))

namespace Phrase

mutual

/-- The tokens of a phrase. -/
def tokens : Phrase → List Token
  | .null => [.word (.ok .null)]
  | .bool true => [.word (.ok .true)]
  | .bool false => [.word (.ok .false)]
  | .number n => [.number (.ok n)]
  | .text ps => [.text ps none]
  | .array [] => [.openArray, .closeArray]
  | .array (item :: rest) => .openArray :: (tokens item ++ itemTokens rest ++ [.closeArray])
  | .object [] => [.openObject, .closeObject]
  | .object ((key, value) :: rest) =>
    .openObject :: .text key none :: .colon :: (tokens value ++ memberTokens rest ++ [.closeObject])

/-- The tokens of the items after the first one. -/
def itemTokens : List Phrase → List Token
  | [] => []
  | item :: rest => .comma :: (tokens item ++ itemTokens rest)

/-- The tokens of the members after the first one. -/
def memberTokens : List (List Piece × Phrase) → List Token
  | [] => []
  | (key, value) :: rest =>
    .comma :: .text key none :: .colon :: (tokens value ++ memberTokens rest)

end

mutual

/-- The tree of a phrase. -/
def node : Phrase → Node
  | .null => .null
  | .bool value => .bool value
  | .number n => .number (.ok n)
  | .text ps => .text ps none
  | .array items => .array (nodes items) none
  | .object members => .object (memberNodes members) none

/-- The trees of items. -/
def nodes : List Phrase → List Node
  | [] => []
  | item :: rest => node item :: nodes rest

/-- The trees of keys and values. -/
def memberNodes : List (List Piece × Phrase) → List (Node × Node)
  | [] => []
  | (key, value) :: rest => (.text key none, node value) :: memberNodes rest

end

end Phrase

/-! ## The tokens of a phrase -/

mutual

theorem unbroken_tokens : ∀ p : Phrase, ∀ t ∈ p.tokens, Unbroken t
  | .null | .bool true | .bool false | .number n | .text ps => by
      simp [Phrase.tokens, Unbroken]
  | .array [] | .object [] => by
      simp [Phrase.tokens, Unbroken]
  | .array (item :: items) => by
      simp only [Phrase.tokens, List.mem_cons, List.mem_append, List.not_mem_nil, or_false]
      rintro t (rfl | (ht | ht) | rfl)
      · trivial
      · exact unbroken_tokens item t ht
      · exact unbroken_itemTokens items t ht
      · trivial
  | .object ((key, value) :: members) => by
      simp only [Phrase.tokens, List.mem_cons, List.mem_append, List.not_mem_nil, or_false]
      rintro t (rfl | rfl | rfl | (ht | ht) | rfl)
      · trivial
      · rfl
      · trivial
      · exact unbroken_tokens value t ht
      · exact unbroken_memberTokens members t ht
      · trivial

theorem unbroken_itemTokens : ∀ items : List Phrase, ∀ t ∈ Phrase.itemTokens items, Unbroken t
  | [] => by simp [Phrase.itemTokens]
  | item :: items => by
      simp only [Phrase.itemTokens, List.mem_cons, List.mem_append]
      rintro t (rfl | ht | ht)
      · trivial
      · exact unbroken_tokens item t ht
      · exact unbroken_itemTokens items t ht

theorem unbroken_memberTokens : ∀ members : List (List Piece × Phrase),
    ∀ t ∈ Phrase.memberTokens members, Unbroken t
  | [] => by simp [Phrase.memberTokens]
  | (key, value) :: members => by
      simp only [Phrase.memberTokens, List.mem_cons, List.mem_append]
      rintro t (rfl | rfl | rfl | ht | ht)
      · trivial
      · rfl
      · trivial
      · exact unbroken_tokens value t ht
      · exact unbroken_memberTokens members t ht

end

/-- Whatever comes in front of these tokens, no number runs into them. -/
def Closed (ts : List Token) : Prop := Apart ts ∧ ∀ t ∈ ts.head?, ¬ IsNumber t

theorem Closed.apart_cons {ts : List Token} (h : Closed ts) (t : Token) : Apart (t :: ts) :=
  h.1.cons fun t' ht' hn => h.2 t' ht' hn.2

theorem closed_cons {t : Token} {ts : List Token} (ht : ¬ IsNumber t) (h : Apart ts) :
    Closed (t :: ts) := by
  refine ⟨h.cons fun _ _ hn => ht hn.1, ?_⟩
  intro t' ht'
  cases ht'
  exact ht

theorem closed_nil : Closed [] := ⟨.nil, by simp⟩

mutual

theorem apart_tokens : ∀ (p : Phrase) {ts : List Token}, Closed ts → Apart (p.tokens ++ ts)
  | .null, ts, h | .bool true, ts, h | .bool false, ts, h | .number n, ts, h | .text ps, ts, h => by
      rw [Phrase.tokens]
      exact h.apart_cons _
  | .array [], ts, h => by
      rw [Phrase.tokens]
      exact (closed_cons (by simp [IsNumber]) (h.apart_cons _)).1
  | .array (item :: items), ts, h => by
      rw [Phrase.tokens]
      simp only [List.append_assoc, List.cons_append, List.nil_append]
      have hclose : Closed (.closeArray :: ts) := closed_cons (by simp [IsNumber]) h.1
      exact (closed_cons (by simp [IsNumber])
        (apart_tokens item (closed_itemTokens items hclose))).1
  | .object [], ts, h => by
      rw [Phrase.tokens]
      exact (closed_cons (by simp [IsNumber]) (h.apart_cons _)).1
  | .object ((key, value) :: members), ts, h => by
      rw [Phrase.tokens]
      simp only [List.append_assoc, List.cons_append, List.nil_append]
      have hclose : Closed (.closeObject :: ts) := closed_cons (by simp [IsNumber]) h.1
      have hvalue := apart_tokens value (closed_memberTokens members hclose)
      have hcolon : Closed (.colon :: _) := closed_cons (by simp [IsNumber]) hvalue
      have hkey : Closed (.text key none :: _) := closed_cons (by simp [IsNumber]) hcolon.1
      exact hkey.apart_cons _

theorem closed_itemTokens : ∀ (items : List Phrase) {ts : List Token}, Closed ts →
    Closed (Phrase.itemTokens items ++ ts)
  | [], ts, h => by
      rw [Phrase.itemTokens]
      exact h
  | item :: items, ts, h => by
      rw [Phrase.itemTokens, List.cons_append, List.append_assoc]
      exact closed_cons (by simp [IsNumber]) (apart_tokens item (closed_itemTokens items h))

theorem closed_memberTokens : ∀ (members : List (List Piece × Phrase)) {ts : List Token},
    Closed ts → Closed (Phrase.memberTokens members ++ ts)
  | [], ts, h => by
      rw [Phrase.memberTokens]
      exact h
  | (key, value) :: members, ts, h => by
      rw [Phrase.memberTokens]
      simp only [List.append_assoc, List.cons_append]
      have hvalue := apart_tokens value (closed_memberTokens members h)
      have hcolon : Closed (.colon :: _) := closed_cons (by simp [IsNumber]) hvalue
      have hkey : Closed (.text key none :: _) := closed_cons (by simp [IsNumber]) hcolon.1
      exact closed_cons (by simp [IsNumber]) hkey.1

end

/-! ## From a phrase to its tree -/

section

variable {token : Token} {parts : List Open} {closable : Bool} {after : List Token}

theorem build_complete {node : Node} (h : Start.of token = .complete node) :
    build parts (.value closable) (token :: after) = build.deliver node parts after := by
  rw [build, h]
  rintro items outer rfl
  exact absurd h (by simp [Start.of])

theorem build_opens {part : Open} {place : Place} (h : Start.of token = .opens part place) :
    build parts (.value closable) (token :: after) = build (part :: parts) place after := by
  rw [build, h]
  rintro items outer rfl
  exact absurd h (by simp [Start.of])

theorem build_key {done : List (Node × Node)} {pieces : List Piece} :
    build (.object done :: parts) (.key closable) (.text pieces none :: .colon :: after)
      = build (.member done (.text pieces none) :: parts) (.value false) after := by
  rw [build, build]

theorem deliver_cons {node : Node} {part : Open} :
    build.deliver node (part :: parts) after = build (part.add node :: parts) .rest after := by
  rw [build.deliver]

end

mutual

/-- Reading the tokens of a phrase comes down to delivering its tree, whatever is open and whatever
comes after. -/
theorem build_tokens : ∀ (p : Phrase) (parts : List Open) (closable : Bool) (after : List Token),
    build parts (.value closable) (p.tokens ++ after) = build.deliver p.node parts after
  | .null, parts, closable, after | .bool true, parts, closable, after
  | .bool false, parts, closable, after | .number n, parts, closable, after
  | .text ps, parts, closable, after => by
      rw [Phrase.tokens, Phrase.node]
      exact build_complete rfl
  | .array [], parts, closable, after => by
      rw [Phrase.tokens, Phrase.node, Phrase.nodes, List.cons_append, build_opens rfl,
        List.singleton_append, build]
      rfl
  | .array (item :: items), parts, closable, after => by
      rw [Phrase.tokens, Phrase.node, Phrase.nodes]
      simp only [List.append_assoc, List.cons_append, List.nil_append]
      rw [build_opens rfl, build_tokens item, deliver_cons]
      -- from here on it makes no difference that the first item is the first
      exact build_itemTokens items [item.node] parts after
  | .object [], parts, closable, after => by
      rw [Phrase.tokens, Phrase.node, Phrase.memberNodes, List.cons_append, build_opens rfl,
        List.singleton_append, build]
      rfl
  | .object ((key, value) :: members), parts, closable, after => by
      rw [Phrase.tokens, Phrase.node, Phrase.memberNodes]
      simp only [List.append_assoc, List.cons_append, List.nil_append]
      rw [build_opens rfl, build_key, build_tokens value, deliver_cons]
      exact build_memberTokens members [(.text key none, value.node)] parts after

theorem build_itemTokens : ∀ (items : List Phrase) (done : List Node) (outer : List Open)
    (after : List Token),
    build (.array done :: outer) .rest (Phrase.itemTokens items ++ .closeArray :: after)
      = build.deliver (.array (done.reverse ++ Phrase.nodes items) none) outer after
  | [], done, outer, after => by
      rw [Phrase.itemTokens, Phrase.nodes, List.append_nil, List.nil_append, build]
  | item :: items, done, outer, after => by
      rw [Phrase.itemTokens, Phrase.nodes, List.cons_append, List.append_assoc, build,
        build_tokens item, deliver_cons]
      have h := build_itemTokens items (item.node :: done) outer after
      rwa [List.reverse_cons, List.append_assoc] at h

theorem build_memberTokens : ∀ (members : List (List Piece × Phrase)) (done : List (Node × Node))
    (outer : List Open) (after : List Token),
    build (.object done :: outer) .rest (Phrase.memberTokens members ++ .closeObject :: after)
      = build.deliver (.object (done.reverse ++ Phrase.memberNodes members) none) outer after
  | [], done, outer, after => by
      rw [Phrase.memberTokens, Phrase.memberNodes, List.append_nil, List.nil_append, build]
  | (key, value) :: members, done, outer, after => by
      rw [Phrase.memberTokens, Phrase.memberNodes]
      simp only [List.append_assoc, List.cons_append]
      rw [build, build_key, build_tokens value, deliver_cons]
      have h := build_memberTokens members ((.text key none, value.node) :: done) outer after
      rwa [List.reverse_cons, List.append_assoc] at h

end

/-- **A text that is written for a phrase is read into its tree**, however it is laid out. -/
theorem ofText_of_written {p : Phrase} {text : String} (h : Written p.tokens text.toList) :
    Document.ofText text = ⟨p.node, false⟩ := by
  have hapart : Apart p.tokens := by simpa using apart_tokens p closed_nil
  have hbuild := build_tokens p [] false []
  rw [List.append_nil] at hbuild
  rw [Document.ofText, tokens_of_written h hapart, hbuild, build.deliver]
  rfl

/-! ## From a tree to its phrase -/

/-- Nothing breaks off in the tree. -/
def Whole (node : Node) : Prop := ∃ p : Phrase, p.node = node

theorem not_whole_close (part : Open) (why : Break) : ¬ Whole (part.close (some why)) := by
  rintro ⟨p, hp⟩
  cases part <;> cases p <;> simp [Phrase.node, Open.close] at hp

theorem not_whole_abandon {why : Break} {parts : List Open} {node : Node}
    (h : parts = [] → ¬ Whole node) : ¬ Whole (Open.abandon why parts node) := by
  induction parts generalizing node with
  | nil => exact h rfl
  | cons part outer ih =>
      rw [Open.abandon]
      exact ih fun _ => not_whole_close _ why

theorem not_whole_absent (why : Break) : ¬ Whole (.absent why) := by
  rintro ⟨p, hp⟩
  cases p <;> simp [Phrase.node] at hp

theorem not_whole_cut (why : Break) (parts : List Open) : ¬ Whole (Open.cut why parts) := by
  cases parts with
  | nil => exact not_whole_absent why
  | cons part outer => exact not_whole_abandon fun _ => not_whole_close _ why

/-- What has to come after a complete value that stands in the open parts, for all of it to be the
tree `root`. -/
def Closes (root : Node) : List Open → Node → List Token → Prop
  | [], value, ts => ts = [] ∧ value = root
  | .array done :: outer, value, ts => ∃ items after,
      ts = Phrase.itemTokens items ++ .closeArray :: after
        ∧ Closes root outer (.array ((value :: done).reverse ++ Phrase.nodes items) none) after
  | .member done key :: outer, value, ts => ∃ members after,
      ts = Phrase.memberTokens members ++ .closeObject :: after
        ∧ Closes root outer
          (.object (((key, value) :: done).reverse ++ Phrase.memberNodes members) none) after
  -- no value stands in an object without a key
  | .object _ :: _, _, _ => True

/-- What has to come where a value may stand. -/
def RemainsValue (root : Node) (parts : List Open) (ts : List Token) : Prop :=
  ∃ (p : Phrase) (after : List Token), ts = p.tokens ++ after ∧ Closes root parts p.node after

/-- What has to come where a key may stand. -/
def RemainsMember (root : Node) (done : List (Node × Node)) (outer : List Open) (ts : List Token) :
    Prop :=
  ∃ key rest, ts = .text key none :: .colon :: rest
    ∧ RemainsValue root (.member done (.text key none) :: outer) rest

/-- What has to come at any place. -/
def Remains (root : Node) : List Open → Place → List Token → Prop
  | parts, .value closable, ts => RemainsValue root parts ts
      ∨ closable = true ∧ ∃ done outer after, parts = .array done :: outer
        ∧ ts = .closeArray :: after ∧ Closes root outer (.array done.reverse none) after
  | .object done :: outer, .key closable, ts => RemainsMember root done outer ts
      ∨ closable = true ∧ ∃ after, ts = .closeObject :: after
        ∧ Closes root outer (.object done.reverse none) after
  | parts, .colon, ts => ∃ rest, ts = .colon :: rest ∧ RemainsValue root parts rest
  | .array done :: outer, .rest, ts => ∃ items after,
      ts = Phrase.itemTokens items ++ .closeArray :: after
        ∧ Closes root outer (.array (done.reverse ++ Phrase.nodes items) none) after
  | .object done :: outer, .rest, ts => ∃ members after,
      ts = Phrase.memberTokens members ++ .closeObject :: after
        ∧ Closes root outer (.object (done.reverse ++ Phrase.memberNodes members) none) after
  -- keys stand in objects only, and what is open is an array or an object
  | _, .key _, _ => True
  | _, .rest, _ => False

/-- A token with which a value is complete makes up the phrase of this value. -/
theorem phrase_of_complete {t : Token} {node : Node} (h : Start.of t = .complete node) :
    ∃ p : Phrase, p.tokens = [t] ∧ p.node = node := by
  unfold Start.of at h
  split at h <;> cases h
  case h_3 pieces => exact ⟨.text pieces, rfl, rfl⟩
  case h_5 numeral => exact ⟨.number numeral, rfl, rfl⟩
  case h_7 => exact ⟨.null, rfl, rfl⟩
  case h_8 => exact ⟨.bool true, rfl, rfl⟩
  case h_9 => exact ⟨.bool false, rfl, rfl⟩

theorem not_whole_of_broken {t : Token} {node : Node} {why : Break}
    (h : Start.of t = .broken node why) : ¬ Whole node := by
  rintro ⟨p, rfl⟩
  unfold Start.of at h
  split at h <;> cases p <;> simp [Phrase.node] at h

/-- Two tokens begin something that is open. -/
theorem opens_cases {t : Token} {part : Open} {place : Place} (h : Start.of t = .opens part place) :
    t = .openArray ∧ part = .array [] ∧ place = .value true
      ∨ t = .openObject ∧ part = .object [] ∧ place = .key true := by
  unfold Start.of at h
  split at h <;> cases h
  case h_1 => exact .inl ⟨rfl, rfl, rfl⟩
  case h_2 => exact .inr ⟨rfl, rfl, rfl⟩

/-- What is read without a break to the end had all that has to come. -/
theorem remains_of_build {root : Node} (hroot : Whole root) (parts : List Open) (place : Place)
    (ts : List Token) : build parts place ts = ⟨root, false⟩ → Remains root parts place ts := by
  -- a tree that breaks off is none that was read
  have hbroken : ∀ {node : Node} {P : Prop}, ¬ Whole node →
      (⟨node, false⟩ : Document) = ⟨root, false⟩ → P := by
    intro node P hnode h
    injection h with h
    exact absurd (h ▸ hroot) hnode
  induction parts, place, ts using build.induct (fun value parts ts =>
      build.deliver value parts ts = ⟨root, false⟩ → Closes root parts value ts) with
  | case1 value ts h =>
      rw [build.deliver.eq_def] at h
      injection h with hvalue htrailing
      exact ⟨by simpa using htrailing, hvalue⟩
  | case2 value ts part outer ih h =>
      rw [deliver_cons] at h
      cases part with
      | array done | member done key => exact ih h
      | object done => trivial
  | case3 parts place =>
      intro h
      rw [build.eq_def] at h
      refine hbroken ?_ h
      split
      · exact not_whole_cut _ _
      · exact not_whole_cut _ _
      · exact not_whole_cut _ _
      · exact not_whole_abandon fun _ => not_whole_absent _
      · exact not_whole_abandon fun _ => not_whole_absent _
      · exact not_whole_abandon fun _ => not_whole_absent _
  | case4 t ts =>
      intro h
      rw [build] at h
      cases h
  | case5 ts done outer ih =>
      intro h
      rw [build] at h
      -- behind a comma comes an item, and the bracket cannot close the array there
      rcases ih h with ⟨p, _, rfl, items, after, rfl, hcloses⟩ | ⟨hfalse, _⟩
      · refine ⟨p :: items, after, ?_, ?_⟩
        · rw [Phrase.itemTokens, List.cons_append, List.append_assoc]
        · rwa [Phrase.nodes, List.append_cons, ← List.reverse_cons]
      · cases hfalse
  | case6 ts done outer ih =>
      intro h
      rw [build] at h
      -- it is the same with a member
      rcases ih h with ⟨key, _, rfl, p, _, rfl, members, after, rfl, hcloses⟩ | ⟨hfalse, _⟩
      · refine ⟨(key, p) :: members, after, ?_, ?_⟩
        · rw [Phrase.memberTokens]
          simp only [List.append_assoc, List.cons_append]
        · rwa [Phrase.memberNodes, List.append_cons, ← List.reverse_cons]
      · cases hfalse
  | case7 ts done outer ih =>
      intro h
      rw [build] at h
      exact ⟨[], ts, rfl, by simpa [Phrase.nodes] using ih h⟩
  | case8 ts done outer ih =>
      intro h
      rw [build] at h
      exact ⟨[], ts, rfl, by simpa [Phrase.memberNodes] using ih h⟩
  | case9 t ts parts _ h1 h2 h3 h4 =>
      intro h
      rw [build] at h
      · exact hbroken (not_whole_cut _ _) h
      all_goals assumption
  | case10 parts ts ih =>
      intro h
      rw [build] at h
      rcases ih h with hvalue | ⟨hfalse, _⟩
      · exact ⟨ts, rfl, hvalue⟩
      · cases hfalse
  | case11 parts t ts hcolon =>
      intro h
      rw [build] at h
      · exact hbroken (not_whole_abandon fun _ => not_whole_absent _) h
      · exact hcolon
  | case12 ts done outer ih =>
      intro h
      rw [build] at h
      exact .inr ⟨rfl, ts, rfl, ih h⟩
  | case13 closable ts key done outer ih =>
      intro h
      rw [build] at h
      obtain ⟨rest, rfl, hvalue⟩ := ih h
      exact .inl ⟨key, rest, rfl, hvalue⟩
  | case14 closable ts t parts htext hclose =>
      intro h
      rw [build] at h
      · cases parts with
        | nil => trivial
        | cons part outer => exact hbroken (not_whole_abandon fun hnil => by cases hnil) h
      all_goals assumption
  | case15 ts done outer ih =>
      intro h
      rw [build] at h
      exact .inr ⟨rfl, done, outer, ts, rfl, rfl, ih h⟩
  | case16 closable ts t parts node hstart hclose ih =>
      intro h
      -- the token is a value of its own
      rw [build, hstart] at h
      · obtain ⟨p, hp, rfl⟩ := phrase_of_complete hstart
        exact .inl ⟨p, ts, by rw [hp]; rfl, ih h⟩
      · exact hclose
  | case17 closable ts t parts node why hstart hclose =>
      intro h
      rw [build, hstart] at h
      · exact hbroken (not_whole_abandon fun _ => not_whole_of_broken hstart) h
      · exact hclose
  | case18 closable ts t parts part place hstart hclose ih =>
      intro h
      rw [build, hstart] at h
      · -- what follows the bracket is the inside of the value, down to its own bracket
        refine .inl ?_
        rcases opens_cases hstart with ⟨rfl, rfl, rfl⟩ | ⟨rfl, rfl, rfl⟩
        · rcases ih h with ⟨p, _, rfl, items, after, rfl, hcloses⟩
            | ⟨_, _, _, after, hopen, rfl, hcloses⟩
          · exact ⟨.array (p :: items), after, by simp [Phrase.tokens], hcloses⟩
          · cases hopen
            exact ⟨.array [], after, by simp [Phrase.tokens], hcloses⟩
        · rcases ih h with ⟨key, _, rfl, p, _, rfl, members, after, rfl, hcloses⟩
            | ⟨_, after, rfl, hcloses⟩
          · exact ⟨.object ((key, p) :: members), after, by simp [Phrase.tokens], hcloses⟩
          · exact ⟨.object [], after, by simp [Phrase.tokens], hcloses⟩
      · exact hclose
  | case19 closable ts t parts hstart hclose =>
      intro h
      rw [build, hstart] at h
      · exact hbroken (not_whole_abandon fun _ => not_whole_absent _) h
      · exact hclose

/-- **A text that is read without a break is written for a phrase.** -/
theorem written_of_ofText {text : String} {root : Node}
    (h : Document.ofText text = ⟨root, false⟩) (hroot : Whole root) :
    ∃ p : Phrase, Written p.tokens text.toList ∧ p.node = root := by
  rcases remains_of_build hroot _ _ _ h with ⟨p, _, htokens, rfl, hnode⟩ | ⟨hfalse, _⟩
  · refine ⟨p, ?_, hnode⟩
    rw [List.append_nil] at htokens
    rw [← htokens]
    exact written_of_tokens (htokens ▸ unbroken_tokens p)
  · cases hfalse

end PadMapping.Proofs
