import PadMapping.Json.Node
import PadMapping.Proofs.Json.Scan

/-!
# The tree of a printed value

A printed value is read into the tree that `nodeOf` gives: nothing breaks off, and every part is
closed. It is the tree of its phrase.
-/

namespace PadMapping.Proofs

open Json

mutual

/-- The tree of a value. -/
def nodeOf : Value → Node
  | .natural n => .number (.ok (numeralOf n))
  | .text s => .text (piecesOf s) none
  | .array items => .array (nodesOf items) none
  | .object members => .object (memberNodesOf members) none

/-- The trees of items. -/
def nodesOf : List Value → List Node
  | [] => []
  | item :: rest => nodeOf item :: nodesOf rest

/-- The trees of keys and values. -/
def memberNodesOf : List (String × Value) → List (Node × Node)
  | [] => []
  | (key, value) :: rest => (.text (piecesOf key) none, nodeOf value) :: memberNodesOf rest

end

mutual

theorem node_phraseOf : ∀ v : Value, (phraseOf v).node = nodeOf v
  | .natural n => by rw [phraseOf, Phrase.node, nodeOf]
  | .text s => by rw [phraseOf, Phrase.node, nodeOf]
  | .array items => by rw [phraseOf, Phrase.node, nodeOf, nodes_phrasesOf items]
  | .object members => by rw [phraseOf, Phrase.node, nodeOf, memberNodes_memberPhrasesOf members]

theorem nodes_phrasesOf : ∀ items : List Value, Phrase.nodes (phrasesOf items) = nodesOf items
  | [] => rfl
  | item :: items => by
      rw [phrasesOf, Phrase.nodes, nodesOf, node_phraseOf item, nodes_phrasesOf items]

theorem memberNodes_memberPhrasesOf : ∀ members : List (String × Value),
    Phrase.memberNodes (memberPhrasesOf members) = memberNodesOf members
  | [] => rfl
  | (key, value) :: members => by
      rw [memberPhrasesOf, Phrase.memberNodes, memberNodesOf, node_phraseOf value,
        memberNodes_memberPhrasesOf members]

end

/-- **A printed value is read back as its tree**, whatever its layout. -/
theorem ofText_render (layout : Layout) (v : Value) :
    Document.ofText (v.render layout) = ⟨nodeOf v, false⟩ := by
  rw [← node_phraseOf]
  exact ofText_of_written (written_render layout v)

end PadMapping.Proofs
