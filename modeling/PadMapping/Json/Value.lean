import PadMapping.Text.Number

/-!
# JSON values and their text

The values that exports are made of, and the two ways of writing them down: in one line, or
with each item and member on a line of its own and two blanks for each level. Empty arrays and
objects are written without anything between their brackets in both.

In a quoted text the quote, the backslash and the characters below the blank are escaped, with
the short form where there is one; all other characters stand for themselves.
-/

namespace PadMapping.Json

/-- A JSON value without fractions and signs. -/
inductive Value where
  | natural (n : Nat)
  | text (s : String)
  | array (items : List Value)
  | object (members : List (String × Value))

/-- How the parts of a value are set apart. -/
inductive Layout where
  | compact
  | indented
deriving DecidableEq, Repr

/-- The form of one character inside a quoted text. -/
def escaped (c : Char) : List Char :=
  match c with
  | '"' => ['\\', '"']
  | '\\' => ['\\', '\\']
  | '\x08' => ['\\', 'b']
  | '\x0c' => ['\\', 'f']
  | '\n' => ['\\', 'n']
  | '\r' => ['\\', 'r']
  | '\t' => ['\\', 't']
  | c => if c.toNat < 0x20 then ['\\', 'u'] ++ Text.hexPadded 4 c.toNat else [c]

/-- A text in quotes. -/
def quoted (s : String) : List Char :=
  '"' :: s.toList.flatMap escaped ++ ['"']

/-- What comes in front of an item at the given level. -/
def Layout.newline (layout : Layout) (level : Nat) : List Char :=
  match layout with
  | .compact => []
  | .indented => '\n' :: List.replicate (2 * level) ' '

/-- What stands between a key and its value. -/
def Layout.colon : Layout → List Char
  | .compact => [':']
  | .indented => [':', ' ']

mutual

/-- The text of a value that stands at the given level. -/
def Value.print (layout : Layout) (level : Nat) : Value → List Char
  | .natural n => Nat.toDigits 10 n
  | .text s => quoted s
  | .array [] => ['[', ']']
  | .array (item :: rest) =>
    '[' :: layout.newline (level + 1) ++ item.print layout (level + 1)
      ++ printItems layout (level + 1) rest ++ layout.newline level ++ [']']
  | .object [] => ['{', '}']
  | .object ((key, value) :: rest) =>
    '{' :: layout.newline (level + 1) ++ quoted key ++ layout.colon
      ++ value.print layout (level + 1) ++ printMembers layout (level + 1) rest
      ++ layout.newline level ++ ['}']

/-- The items after the first one. -/
def printItems (layout : Layout) (level : Nat) : List Value → List Char
  | [] => []
  | item :: rest =>
    ',' :: layout.newline level ++ item.print layout level ++ printItems layout level rest

/-- The members after the first one. -/
def printMembers (layout : Layout) (level : Nat) : List (String × Value) → List Char
  | [] => []
  | (key, value) :: rest =>
    ',' :: layout.newline level ++ quoted key ++ layout.colon ++ value.print layout level
      ++ printMembers layout level rest

end

/-- The text of a value. -/
def Value.render (layout : Layout) (value : Value) : String :=
  String.ofList (value.print layout 0)

end PadMapping.Json
