import PadMapping.Binary.Basic

/-!
# The bits of a binary number

A sign bit, the exponent field and the fraction, in this order from the top. The fraction
lacks the leading one, except in numbers below the least order of the format, whose exponent
field is zero.
-/

namespace PadMapping.Binary

variable {f : Format}

/-- Bits of the fraction field. -/
def Format.fractionBits (f : Format) : Nat := f.precision - 1

/-- The number that a bit pattern stands for. Bits above the sign are ignored. -/
def ofBits (bits : Nat) : Binary f :=
  let fractions := Nat.pow 2 f.fractionBits
  let exponents := Nat.pow 2 f.exponentBits
  let fraction := bits % fractions
  let field := bits / fractions % exponents
  let negative := bits / fractions / exponents % 2 = 1
  if field = exponents - 1 then
    if fraction = 0 then .infinity negative else .nan
  else
    let significand := if field = 0 then fraction else fractions + fraction
    let lastBit : Int := f.minOrder - f.fractionBits + (field - 1 : Nat)
    let size := (significand : Rat) * twoTo lastBit
    if negative then (if significand = 0 then .negativeZero else .number (-size))
    else .number size

/-- The bits of a sign, an exponent field and a fraction. -/
def pack (f : Format) (negative : Bool) (field fraction : Nat) : Nat :=
  ((if negative then Nat.pow 2 f.exponentBits else 0) + field) * Nat.pow 2 f.fractionBits
    + fraction

/-- The bit pattern of a number; no number has the quiet pattern without a sign. -/
def toBits (b : Binary f) : Nat :=
  let allOnes := Nat.pow 2 f.exponentBits - 1
  match b with
  | .nan => pack f false allOnes (Nat.pow 2 (f.fractionBits - 1))
  | .infinity negative => pack f negative allOnes 0
  | .negativeZero => pack f true 0 0
  | .number x =>
    if x = 0 then 0 else
    let significand := (x.abs / twoTo (f.lastBit x)).floor.toNat
    if order x < f.minOrder then pack f (x < 0) 0 significand
    else
      pack f (x < 0) (order x - f.minOrder + 1).toNat (significand - Nat.pow 2 f.fractionBits)

end PadMapping.Binary
