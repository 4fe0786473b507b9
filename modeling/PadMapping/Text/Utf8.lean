/-!
# Bytes as text

A file or a line of input is bytes; it is a text only if the bytes are UTF-8. A device name
is never refused: each longest run of bytes that starts a character but does not finish it,
and each byte that starts none, is shown as one replacement character.
-/

namespace PadMapping.Text

/-- The text that the bytes encode, if they encode one. -/
def decode? (bytes : List UInt8) : Option String :=
  String.fromUTF8? ⟨bytes.toArray⟩

/-- What follows the first byte of a character of several bytes. -/
structure Lead where
  /-- The bits that the first byte gives. -/
  bits : Nat
  /-- How many bytes follow. -/
  following : Nat
  /-- The least value of the next byte. -/
  low : UInt8
  /-- The greatest value of the next byte. -/
  high : UInt8

/-- Reads a first byte; none where no character of several bytes starts with it. The bounds
rule out long forms, halves of surrogate pairs and values past the last character. -/
def Lead.ofByte? (b : UInt8) : Option Lead :=
  let n := b.toNat
  if 0xC2 ≤ n && n ≤ 0xDF then some ⟨n - 0xC0, 1, 0x80, 0xBF⟩
  else if n == 0xE0 then some ⟨0, 2, 0xA0, 0xBF⟩
  else if n == 0xED then some ⟨0xD, 2, 0x80, 0x9F⟩
  else if 0xE1 ≤ n && n ≤ 0xEF then some ⟨n - 0xE0, 2, 0x80, 0xBF⟩
  else if n == 0xF0 then some ⟨0, 3, 0x90, 0xBF⟩
  else if 0xF1 ≤ n && n ≤ 0xF3 then some ⟨n - 0xF0, 3, 0x80, 0xBF⟩
  else if n == 0xF4 then some ⟨4, 3, 0x80, 0x8F⟩
  else none

/-- Reads the `following` bytes of a character whose first bytes gave `bits`, and says how many
bytes were good. -/
def follow (bits following : Nat) (low high : UInt8) : List UInt8 → Option Char × Nat
  | [] => (if following = 0 then some (Char.ofNat bits) else none, 0)
  | b :: rest =>
    match following with
    | 0 => (some (Char.ofNat bits), 0)
    | k + 1 =>
      if low ≤ b && b ≤ high then
        let (c, used) := follow (bits * 64 + b.toNat % 64) k 0x80 0xBF rest
        (c, used + 1)
      else (none, 0)

/-- The text that the bytes encode, with U+FFFD in place of what encodes no character. -/
def decodeLossy : List UInt8 → List Char
  | [] => []
  | b :: rest =>
    if b < 0x80 then Char.ofNat b.toNat :: decodeLossy rest
    else match Lead.ofByte? b with
      | none => '\uFFFD' :: decodeLossy rest
      | some lead =>
        let (c, used) := follow lead.bits lead.following lead.low lead.high rest
        c.getD '\uFFFD' :: decodeLossy (rest.drop used)
termination_by bytes => bytes.length
decreasing_by all_goals (simp only [List.length_cons, List.length_drop]; omega)

end PadMapping.Text
