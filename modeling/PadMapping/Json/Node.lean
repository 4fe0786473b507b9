import PadMapping.Json.Token

/-!
# What can be read of a JSON text

A text is turned into a tree that holds everything up to the first place where the text breaks
the grammar; from there on nothing is read. The place itself is kept in the tree: a value or a
key that should stand there is `absent`, a token may break off, and an array or object may not
be closed. Whoever walks over the tree from left to right meets all problems of the text in
their order, among them those that only the wanted shape of the value makes.
-/

namespace PadMapping.Json

/-- A value as far as it could be read. -/
inductive Node where
  | null
  | bool (value : Bool)
  | number (numeral : Except Break Numeral)
  | text (pieces : List Piece) (broken : Option Break)
  /-- A word that is not written to its end. -/
  | word (why : Break)
  | array (items : List Node) (broken : Option Break)
  /-- Keys are nodes too, since something else than a text may stand in their place. -/
  | object (members : List (Node × Node)) (broken : Option Break)
  /-- There is no value where one should be. -/
  | absent (why : Break)

/-- A text as far as it could be read. -/
structure Document where
  root : Node
  /-- Whether something comes after a complete value. -/
  trailing : Bool

/-- An array or object that is still open, with what was read of it, last first. -/
inductive Open where
  | array (items : List Node)
  | object (members : List (Node × Node))
  /-- An object with a key whose value has not been read. -/
  | member (members : List (Node × Node)) (key : Node)

/-- What may come next. -/
inductive Place where
  /-- A value, or the end of the array where `closable`. -/
  | value (closable : Bool)
  /-- A key, or the end of the object where `closable`. -/
  | key (closable : Bool)
  | colon
  /-- A comma, or the end of what is open. -/
  | rest

/-- Puts a value into the innermost open part. -/
def Open.add (node : Node) : Open → Open
  | .array items => .array (node :: items)
  | .object members => .object ((node, .absent .malformed) :: members)
  | .member members key => .object ((key, node) :: members)

/-- The node of a part that ends here. -/
def Open.close (broken : Option Break) : Open → Node
  | .array items => .array items.reverse broken
  | .object members => .object members.reverse broken
  | .member members key => .object ((key, .absent .malformed) :: members).reverse broken

/-- The tree when reading stops inside the open parts. -/
def Open.abandon (why : Break) : List Open → Node → Node
  | [], node => node
  | part :: outer, node => abandon why outer ((part.add node).close (some why))

/-- The tree when reading stops in front of the next item or member. -/
def Open.cut (why : Break) : List Open → Node
  | [] => .absent why
  | part :: outer => abandon why outer (part.close (some why))

/-- What a token means where a value may stand: a value, one that breaks off, or the beginning
of an array or object. -/
inductive Start where
  | complete (node : Node)
  | broken (node : Node) (why : Break)
  | opens (part : Open) (place : Place)
  | nothing

/-- The meaning of a token where a value may stand. -/
def Start.of : Token → Start
  | .openArray => .opens (.array []) (.value true)
  | .openObject => .opens (.object []) (.key true)
  | .text pieces none => .complete (.text pieces none)
  | .text pieces (some why) => .broken (.text pieces (some why)) why
  | .number (.ok numeral) => .complete (.number (.ok numeral))
  | .number (.error why) => .broken (.number (.error why)) why
  | .word (.ok .null) => .complete .null
  | .word (.ok .true) => .complete (.bool true)
  | .word (.ok .false) => .complete (.bool false)
  | .word (.error why) => .broken (.word why) why
  | _ => .nothing

/-- The node for something other than a whole text where a key should stand. -/
def brokenKey : Token → Node
  | .text pieces broken => .text pieces broken
  | _ => .absent .malformed

/-- Reads tokens into the innermost of the open parts. -/
def build : List Open → Place → List Token → Document
  | parts, place, [] =>
    let node := match place with
      | .rest => Open.cut .ended parts
      | .value true | .key true => Open.cut .ended parts
      | .value false | .key false | .colon => Open.abandon .ended parts (.absent .ended)
    ⟨node, false⟩
  | parts, .rest, token :: tokens =>
    match token, parts with
    | _, [] => ⟨.absent .malformed, true⟩
    | .comma, .array items :: outer => build (.array items :: outer) (.value false) tokens
    | .comma, .object members :: outer => build (.object members :: outer) (.key false) tokens
    | .closeArray, .array items :: outer => deliver (.array items.reverse none) outer tokens
    | .closeObject, .object members :: outer =>
      deliver (.object members.reverse none) outer tokens
    | _, parts => ⟨Open.cut .malformed parts, false⟩
  | parts, .colon, token :: tokens =>
    match token with
    | .colon => build parts (.value false) tokens
    | _ => ⟨Open.abandon .malformed parts (.absent .malformed), false⟩
  | parts, .key closable, token :: tokens =>
    match token, closable, parts with
    | .closeObject, true, .object members :: outer =>
      deliver (.object members.reverse none) outer tokens
    | .text pieces none, _, .object members :: outer =>
      build (.member members (.text pieces none) :: outer) .colon tokens
    | token, _, parts => ⟨Open.abandon .malformed parts (brokenKey token), false⟩
  | parts, .value closable, token :: tokens =>
    match token, closable, parts with
    | .closeArray, true, .array items :: outer =>
      deliver (.array items.reverse none) outer tokens
    | token, _, parts =>
      match Start.of token with
      | .complete node => deliver node parts tokens
      | .broken node why => ⟨Open.abandon why parts node, false⟩
      | .opens part place => build (part :: parts) place tokens
      | .nothing => ⟨Open.abandon .malformed parts (.absent .malformed), false⟩
where
  /-- Puts a complete value into the innermost open part, or ends with it. -/
  deliver (node : Node) (parts : List Open) (tokens : List Token) : Document :=
    match parts with
    | [] => ⟨node, !tokens.isEmpty⟩
    | part :: outer => build (part.add node :: outer) .rest tokens

/-- Reads a text. -/
def Document.ofText (text : String) : Document :=
  build [] (.value false) (tokens text.toList)

end PadMapping.Json
