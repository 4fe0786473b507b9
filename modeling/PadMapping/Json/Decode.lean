import PadMapping.Json.Node
import PadMapping.Json.Number
import PadMapping.Json.Problem

/-!
# Reading values out of a JSON text

A decoder turns a node into a value or into the first problem met on the way. Numbers and
texts are looked at more closely where they are used than where they are only passed over: a
used number has to be in range, and in a used text each half of a surrogate pair needs the
other half.
-/

namespace PadMapping.Json

/-- The outcome of a decoder. -/
abbrev Decoded (α : Type) := Except Problem α

/-- Puts a broken token or an open end into the outcome. -/
def checkBreak : Option Break → Decoded Unit
  | none => .ok ()
  | some why => .error (.text why)

/-! ## Used texts and numbers -/

/-- The character of two halves. -/
def joinHalves (high low : Nat) : Char :=
  Char.ofNat (0x10000 + (high - 0xD800) * 0x400 + (low - 0xDC00))

/-- The characters of a text; a half without its other half breaks the grammar at once, unless
the text ends where the other half could still come. -/
def joinPieces (broken : Option Break) : List Piece → Decoded (List Char)
  | [] => do checkBreak broken; return []
  | .char c :: rest => do return c :: (← joinPieces broken rest)
  | .low _ :: _ => .error .malformed
  | [.high _] => .error (.text (broken.getD .malformed))
  | .high high :: .low low :: rest => do return joinHalves high low :: (← joinPieces broken rest)
  | .high _ :: _ => .error .malformed

/-- The text of a quoted token. -/
def decodeText (pieces : List Piece) (broken : Option Break) : Decoded String :=
  (joinPieces broken pieces).map String.ofList

/-- The value of a number token. -/
def decodeNumber : Except Break Numeral → Decoded Number
  | .error why => .error (.text why)
  | .ok numeral =>
    match numeral.value? with
    | some value => .ok value
    | none => .error .malformed

/-! ## Passing over values -/

mutual

/-- Passes over a value that nobody asked for. -/
def Node.skip : Node → Decoded Unit
  | .null | .bool _ | .number (.ok _) => .ok ()
  | .number (.error _) => .error .malformed
  | .text _ broken => checkBreak broken
  | .word why | .absent why => .error (.text why)
  | .array items broken => do skipItems items; checkBreak broken
  | .object members broken => do skipMembers members; checkBreak broken

/-- Passes over the items of an array. -/
def skipItems : List Node → Decoded Unit
  | [] => .ok ()
  | item :: rest => do item.skip; skipItems rest

/-- Passes over the members of an object. -/
def skipMembers : List (Node × Node) → Decoded Unit
  | [] => .ok ()
  | member :: rest => do skipMember member; skipMembers rest

/-- Passes over a key and its value. -/
def skipMember : Node × Node → Decoded Unit
  | (.text _ broken, value) => do checkBreak broken; value.skip
  | (.absent why, _) => .error (.text why)
  | _ => .error .malformed

end

/-! ## Values of the wrong kind -/

/-- What stands in a place where it is not wanted. Arrays and objects are not looked into. -/
def Node.found : Node → Decoded Found
  | .null => .ok .null
  | .bool value => .ok (.boolean value)
  | .number numeral => do
    match ← decodeNumber numeral with
    | .natural n => return .integer n
    | .negative n => return .integer (-n)
    | .float x => return .float x
  | .text pieces broken => do return .text (← decodeText pieces broken)
  | .word why | .absent why => .error (.text why)
  | .array _ _ => .ok .sequence
  | .object _ _ => .ok .map

/-- Reports a value of the wrong kind. -/
def Node.mismatch {α : Type} (wanted : Wanted) (node : Node) : Decoded α := do
  throw (.mismatch ⟨← node.found, wanted⟩)

/-! ## Plain values -/

/-- A text. -/
def Node.asText : Node → Decoded String
  | .text pieces broken => decodeText pieces broken
  | node => node.mismatch .text

/-- The key of a member. -/
def Node.asKey : Node → Decoded String
  | .text pieces broken => decodeText pieces broken
  | .absent why => .error (.text why)
  | _ => .error .malformed

/-- An index. -/
def Node.asIndex (node : Node) : Decoded Nat :=
  match node with
  | .number (.ok numeral) =>
    match numeral.value? with
    | some (.natural n) => .ok n
    | _ => node.mismatch .index
  | _ => node.mismatch .index

/-- A value that may be null. -/
def Node.orNull {α : Type} (decode : Node → Decoded α) : Node → Decoded (Option α)
  | .null => .ok none
  | node => some <$> decode node

/-- Nothing but a null. -/
def Node.asNull : Node → Decoded Unit
  | .null => .ok ()
  | node => node.mismatch .unit

/-- All items of an array. -/
def Node.asList {α : Type} (decode : Node → Decoded α) : Node → Decoded (List α)
  | .array items broken => do
    let values ← items.mapM decode
    checkBreak broken
    return values
  | node => node.mismatch .sequence

/-! ## Records -/

/-- A place for the value of a field, empty at first. -/
abbrev Slot (α : Type) := Option α

/-- Fills a slot; that it is empty is checked before the value is read. -/
def Slot.fill {α : Type} (slot : Slot α) (name : String) (value : Decoded α) :
    Decoded (Slot α) :=
  match slot with
  | some _ => .error (.duplicateField name)
  | none => some <$> value

/-- The value of a field that has to be there. -/
def Slot.require {α : Type} (slot : Slot α) (name : String) : Decoded α :=
  match slot with
  | some value => .ok value
  | none => .error (.missingField name)

/-- How the fields of a record are read. A record is an object, or an array of the values of
the fields in their order. -/
structure RecordShape (slots : Type) where
  name : String
  /-- The fields in order. -/
  fields : List String
  /-- How many fields an array has to give values for; those after them may be left out. -/
  required : Nat
  /-- No field has been read. -/
  empty : slots
  /-- Reads the value of a field; none for a key that names no field. -/
  read : String → Option (Node → slots → Decoded slots)

namespace RecordShape

variable {slots : Type}

/-- Reads a value for a field, or passes over it. -/
def readField (shape : RecordShape slots) (key : String) (value : Node) (state : slots) :
    Decoded slots :=
  match shape.read key with
  | some read => read value state
  | none => do value.skip; return state

/-- Reads members one after another. -/
def readMembers (shape : RecordShape slots) (state : slots) : List (Node × Node) → Decoded slots
  | [] => .ok state
  | (key, value) :: rest => do
    let key ← key.asKey
    let state ← shape.readField key value state
    shape.readMembers state rest

/-- Reads items for the given fields, of which `count` have been read already. -/
def readItems (shape : RecordShape slots) (broken : Option Break) (count : Nat)
    (state : slots) : List String → List Node → Decoded slots
  | [], [] => do checkBreak broken; return state
  | [], _ :: _ => .error .malformed
  | key :: keys, item :: rest => do
    let state ← shape.readField key item state
    shape.readItems broken (count + 1) state keys rest
  | _ :: _, [] => do
    checkBreak broken
    if count < shape.required then throw (.tooShort count shape.name shape.fields.length)
    return state

/-- Reads a record. -/
def decode {α : Type} (shape : RecordShape slots) (finish : slots → Decoded α) :
    Node → Decoded α
  | .object members broken => do
    let state ← shape.readMembers shape.empty members
    checkBreak broken
    finish state
  | .array items broken => do
    let state ← shape.readItems broken 0 shape.empty shape.fields items
    finish state
  | node => node.mismatch (.record shape.name)

end RecordShape

/-- Reads a whole text: one value with nothing behind it. -/
def decodeDocument {α : Type} (decode : Node → Decoded α) (text : String) : Decoded α := do
  let document := Document.ofText text
  let value ← decode document.root
  if document.trailing then throw .malformed
  return value

end PadMapping.Json
