import PadMapping.Binary.Arithmetic
import PadMapping.Decimal.Shortest
import PadMapping.Json.Token

/-!
# The value of a JSON number

A number without point and exponent is an integer if it fits into 64 bits. Any other number is
a binary number of 64 bits, found in a way that is quick and may miss the nearest one: the
digits are gathered into one 64-bit word, which drops the digits that do not fit any more, and
the word is then multiplied or divided by a power of ten.
-/

namespace PadMapping.Json

/-- The value of a number. -/
inductive Number where
  | natural (n : Nat)
  /-- The integer `-n`, for `0 < n`. -/
  | negative (n : Nat)
  | float (x : Double)
deriving DecidableEq, Repr

/-- The value of a decimal digit. -/
def digitValue (c : Char) : Nat := c.toNat - '0'.toNat

/-- Appends digits to a word as long as it stays one, and says how many were left over. -/
def appendDigits (word : Nat) : List Char → Nat × Nat
  | [] => (word, 0)
  | d :: rest =>
    let longer := word * 10 + digitValue d
    if longer < Text.wordBound then appendDigits longer rest else (word, rest.length + 1)

/-- The number nearest to a power of ten. -/
def powerOfTen (n : Nat) : Double := Binary.round (Decimal.tenTo n)

/-- The exponent of the largest power of ten that is a number of 64 bits. -/
def maxPower : Nat := 308

/-- Multiplies by a power of ten in one step, or divides by it in as many steps as there are
powers needed. There is no result past the largest number. -/
def scaled? (x : Double) (exponent : Int) : Option Double :=
  if 0 ≤ exponent then
    if exponent ≤ maxPower then
      let y := x.mul (powerOfTen exponent.toNat)
      if y.value?.isSome then some y else none
    else if x.value? = some 0 then some x else none
  else if -maxPower ≤ exponent then some (x.div (powerOfTen (-exponent).toNat))
  else if x.value? = some 0 then some x
  else scaled? (x.div (powerOfTen maxPower)) (exponent + maxPower)
termination_by (-exponent).toNat
decreasing_by simp only [maxPower] at *; omega

/-- A number with a sign. -/
def signed (negative : Bool) (x : Double) : Double := if negative then x.neg else x

/-- The value of a numeral; none if it is past the largest number. -/
def Numeral.value? (n : Numeral) : Option Number :=
  let (word, left) := appendDigits 0 n.whole
  if n.fraction = [] ∧ n.exponent = none ∧ left = 0 then
    if !n.negative then some (.natural word)
    else if word = 0 ∨ 9223372036854775808 < word then
      some (.float (signed true (Binary.ofInt word)))
    else some (.negative word)
  else
    let (word, dropped) := appendDigits word n.fraction
    let exponent : Int := match n.exponent with
      | none => 0
      | some (negative, digits) =>
        let size : Int := Nat.ofDigitChars 10 digits 0
        if negative then -size else size
    let places : Int := (n.fraction.length - dropped : Nat)
    (scaled? (Binary.ofInt word) (exponent + left - places)).map fun x =>
      .float (signed n.negative x)

end PadMapping.Json
