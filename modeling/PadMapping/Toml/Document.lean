import PadMapping.Toml.Item
import PadMapping.Toml.Number
import PadMapping.Toml.Text

/-!
# Reading a TOML document

A document is a sequence of lines, each empty, a key with its value, or the header of a table.
A document with any mistake in it is refused as a whole.

Each of the loops below goes on only with fewer characters than it had, which is always so where
something was read.
-/

namespace PadMapping.Toml

/-- The number of levels that is too much for a key with dots and for values inside values. -/
def tooDeep : Nat := 80

/-! ## Space -/

/-- Drops spaces and tabs. -/
def skipSpace (cs : List Char) : List Char := cs.dropWhile isSpace

/-- Drops spaces, ends of lines and comments, which end with their line. -/
def skipGaps (inComment : Bool) : List Char → Option (List Char)
  | [] => if inComment then none else some []
  | '\r' :: '\n' :: rest => skipGaps false rest
  | c :: rest =>
    if c = '\n' then skipGaps false rest
    else if inComment then (if isPrintable c then skipGaps true rest else none)
    else if isSpace c then skipGaps false rest
    else if c = '#' then skipGaps true rest
    else some (c :: rest)

/-- What is left after the line, of which only space and a comment may come. -/
def endLine (cs : List Char) : Option (List Char) :=
  let cs := match skipSpace cs with
    | '#' :: comment => comment.dropWhile isPrintable
    | cs => cs
  if cs.isEmpty then some [] else newline? cs

/-! ## Keys -/

/-- Whether a character may stand in a name without quotes. -/
def isBare (c : Char) : Bool := c.isAlphanum || c == '-' || c == '_'

/-- Reads a name. -/
def readName (cs : List Char) : Option (String × List Char) :=
  match cs with
  | '"' :: rest => (readBasic .plain rest).map fun (name, rest) => (String.ofList name, rest)
  | '\x27' :: rest => (readLiteral rest).map fun (name, rest) => (String.ofList name, rest)
  | cs =>
    let name := cs.takeWhile isBare
    if name.isEmpty then none else some (String.ofList name, cs.dropWhile isBare)

/-- Reads names with dots between them. -/
def readNames (cs : List Char) : Option (List String × List Char) :=
  match readName (skipSpace cs) with
  | none => none
  | some (name, rest) =>
    match skipSpace rest with
    | '.' :: more =>
      if more.length < cs.length then
        (readNames more).map fun (names, rest) => (name :: names, rest)
      else none
    | rest => some ([name], rest)
termination_by cs.length

/-- Reads a key with dots. -/
def readKey (cs : List Char) : Option (KeyPath × List Char) := do
  let (names, rest) ← readNames cs
  if tooDeep ≤ names.length then none
  else return (⟨names.dropLast, ← names.getLast?⟩, rest)

/-! ## Values -/

/-- Reads values. -/
abbrev ValueReader := List Char → Option (Value × List Char)

/-- Reads the rest of an array. -/
def readItems (value : ValueReader) (cs : List Char) : Option (List Value × List Char) :=
  match skipGaps false cs with
  | none => none
  | some (']' :: rest) => some ([], rest)
  | some start => do
    let (v, rest) ← value start
    match ← skipGaps false rest with
    | ',' :: more =>
      if more.length < cs.length then
        let (vs, rest) ← readItems value more
        return (v :: vs, rest)
      else none
    | ']' :: rest => return ([v], rest)
    | _ => none
termination_by cs.length

/-- Reads a key, the equals sign and a value. -/
def readAssignment (value : ValueReader) (cs : List Char) :
    Option (KeyPath × Value × List Char) := do
  let (key, rest) ← readKey cs
  let rest ← readChar '=' rest
  let (v, rest) ← value (skipSpace rest)
  return (key, v, rest)

/-- Reads the rest of an inline table, in which there are `items` already. -/
def readMembers (value : ValueReader) (items : Items) (cs : List Char) :
    Option (Items × List Char) := do
  let (key, v, rest) ← readAssignment value cs
  let items ← Items.put true key.key v key.path items
  match skipSpace rest with
  | ',' :: more => if more.length < cs.length then readMembers value items more else none
  | '}' :: rest => return (items, rest)
  | _ => none
termination_by cs.length

/-- Reads an inline table after its opening bracket. -/
def readInline (value : ValueReader) (cs : List Char) : Option (Value × List Char) :=
  match skipSpace cs with
  | '}' :: rest => some (.table [], rest)
  | cs => (readMembers value [] cs).map fun (items, rest) => (.table (toMembers items), rest)

/-- Reads a value with at most so many levels of values inside it. -/
def readValue : Nat → ValueReader
  | 0, '[' :: _ | 0, '{' :: _ => none
  | levels + 1, '[' :: rest =>
    (readItems (readValue levels) rest).map fun (items, rest) => (.array items, rest)
  | levels + 1, '{' :: rest => readInline (readValue levels) rest
  | _, 't' :: 'r' :: 'u' :: 'e' :: rest => some (.boolean true, rest)
  | _, 'f' :: 'a' :: 'l' :: 's' :: 'e' :: rest => some (.boolean false, rest)
  | _, cs =>
    match readText cs with
    | some (text, rest) => some (.text (String.ofList text), rest)
    | none => readNumber cs

/-! ## Lines -/

/-- Reads a line after the spaces at its front. -/
def readLine (b : Builder) : List Char → Option (Builder × List Char)
  | '#' :: rest => (endLine ('#' :: rest)).map (b, ·)
  | '[' :: '[' :: rest => do
    let (key, rest) ← readKey rest
    let rest ← readChar ']' rest
    let rest ← readChar ']' rest
    return (← b.openElement key, ← endLine rest)
  | '[' :: rest => do
    let (key, rest) ← readKey rest
    let rest ← readChar ']' rest
    return (← b.openTable key, ← endLine rest)
  | cs =>
    match newline? cs with
    | some rest => some (b, rest)
    | none => do
      let (key, v, rest) ← readAssignment (readValue (tooDeep - 1)) cs
      return (← b.assign key v, ← endLine rest)

/-- Reads lines to the end. -/
def readLines (b : Builder) (cs : List Char) : Option Builder :=
  match skipSpace cs with
  | [] => some b
  | line => do
    let (b, rest) ← readLine b line
    if rest.length < cs.length then readLines b rest else none
termination_by cs.length

/-- Drops the mark that may stand at the very beginning of a document. -/
def dropMark : List Char → List Char
  | '\uFEFF' :: rest => rest
  | cs => cs

/-- Reads a document; none if it is not well formed. -/
def parse? (text : String) : Option Table :=
  (readLines .empty (dropMark text.toList)).map Builder.finish

end PadMapping.Toml
