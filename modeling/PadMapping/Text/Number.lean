/-!
# Whole numbers in texts

Indices are unsigned 64-bit numbers. They are written in decimal without leading zeros, and
read with any number of them and an optional plus sign.
-/

namespace PadMapping.Text

/-- The least number that is no unsigned 64-bit number. -/
def wordBound : Nat := 18446744073709551616

/-- The value of a run of decimal digits; none if it is empty or holds another character. -/
def digits? (cs : List Char) : Option Nat :=
  if cs ≠ [] ∧ cs.all Char.isDigit then some (Nat.ofDigitChars 10 cs 0) else none

/-- Reads an unsigned 64-bit number with an optional plus sign. -/
def index? (cs : List Char) : Option Nat :=
  let unsigned := match cs with
    | '+' :: rest => rest
    | _ => cs
  (digits? unsigned).filter (· < wordBound)

/-- Whether a character is a hexadecimal digit of either case. -/
def isHexDigit (c : Char) : Bool :=
  c.isDigit || ('a' ≤ c && c ≤ 'f') || ('A' ≤ c && c ≤ 'F')

/-- The value of a hexadecimal digit. -/
def hexDigit? (c : Char) : Option Nat :=
  if c.isDigit then some (c.toNat - '0'.toNat)
  else if 'a' ≤ c ∧ c ≤ 'f' then some (c.toNat - 'a'.toNat + 10)
  else if 'A' ≤ c ∧ c ≤ 'F' then some (c.toNat - 'A'.toNat + 10)
  else none

/-- The value of a run of hexadecimal digits; none if another character is among them. -/
def hexDigits? (cs : List Char) : Option Nat :=
  cs.foldlM (fun n c => (hexDigit? c).map (n * 16 + ·)) 0

/-- The digits of a number to some base, with zeros in front up to `width` of them. -/
def padded (base width n : Nat) : List Char :=
  let digits := Nat.toDigits base n
  List.replicate (width - digits.length) '0' ++ digits

/-- Lower-case hexadecimal digits, with zeros in front up to `width` of them. -/
def hexPadded (width n : Nat) : List Char := padded 16 width n

end PadMapping.Text
