import PadMapping.Text.Shapeless

/-!
# Texts quoted in messages

A text that is shown to the user as a found value or a path stands between double quotes.
Inside, the quote, the backslash and the common control characters have short escapes, and a
character without a shape of its own is given by its number.
-/

namespace PadMapping.Text

/-- A character by its number, in lower-case hexadecimal. -/
def byNumber (c : Char) : List Char :=
  ['\\', 'u', '{'] ++ Nat.toDigits 16 c.toNat ++ ['}']

/-- The form of one character between the quotes. -/
def quotedChar : Char → List Char
  | '\x00' => ['\\', '0']
  | '\t' => ['\\', 't']
  | '\n' => ['\\', 'n']
  | '\r' => ['\\', 'r']
  | '"' => ['\\', '"']
  | '\\' => ['\\', '\\']
  | c =>
    if c.toNat < 0x20 ∨ c.toNat = 0x7F then byNumber c
    else if 0x80 ≤ c.toNat ∧ isShapeless c then byNumber c
    else [c]

/-- A text between quotes. -/
def quote (s : String) : String :=
  String.ofList ('"' :: s.toList.flatMap quotedChar ++ ['"'])

end PadMapping.Text
