/-!
# Binary floating-point numbers

A floating-point number is kept as what it stands for: an exact rational, one of the two
infinities, the zero with a minus sign, or no number at all. The format it belongs to says
only how an exact result is brought back among the numbers the format can hold, so it is a
parameter of the type and nothing is stored of it.

Every operation of this folder is the exact operation on rationals followed by
`Binary.round`, which goes to the nearest representable number and takes the even
neighbour of a half.
-/

namespace PadMapping

/-- A binary interchange format with one sign bit. -/
structure Binary.Format where
  /-- Bits of the significand, the leading one included. -/
  precision : Nat
  /-- Bits of the exponent field. -/
  exponentBits : Nat
deriving DecidableEq, Repr

namespace Binary.Format

/-- The 32-bit format. -/
def single : Format := ⟨24, 8⟩

/-- The 64-bit format. -/
def double : Format := ⟨53, 11⟩

/-- The order (see `Binary.order`) of the largest numbers of the format. -/
def maxOrder (f : Format) : Int := (Nat.pow 2 (f.exponentBits - 1) : Nat) - 1

/-- The order of the smallest numbers that are written with full precision. -/
def minOrder (f : Format) : Int := 1 - f.maxOrder

end Binary.Format

/-- A number of a binary format. The positive zero is `number 0`. -/
inductive Binary (f : Binary.Format) where
  | nan
  | infinity (negative : Bool)
  | negativeZero
  | number (value : Rat)
deriving DecidableEq, Repr

/-- A number of the 32-bit format. -/
abbrev Single := Binary .single

/-- A number of the 64-bit format. -/
abbrev Double := Binary .double

namespace Binary

/-- The power of two with exponent `e`. -/
def twoTo : Int → Rat
  | .ofNat n => (Nat.pow 2 n : Nat)
  | .negSucc n => mkRat 1 (Nat.pow 2 (n + 1))

/-- The exponent of the leading bit: the `e` with `2 ^ e ≤ |x| < 2 ^ (e + 1)`, for `x ≠ 0`. -/
def order (x : Rat) : Int :=
  let e : Int := (x.num.natAbs.log2 : Int) - (x.den.log2 : Int)
  if x.abs < twoTo e then e - 1 else e

/-- The nearest integer; a half goes to the even neighbour. -/
def nearestEven (x : Rat) : Int :=
  let low := x.floor
  let above := x - low
  if above < 1 / 2 then low
  else if 1 / 2 < above then low + 1
  else if low % 2 = 0 then low else low + 1

/-- The exponent of the last bit in which numbers of the size of `x` are written. -/
def Format.lastBit (f : Format) (x : Rat) : Int :=
  max f.minOrder (order x) - (f.precision - 1)

/-- The largest number of the format. -/
def Format.largest (f : Format) : Rat :=
  (twoTo f.precision - 1) * twoTo (f.maxOrder - (f.precision - 1))

variable {f g : Format}

/-- The number of the format that is nearest to `x`: of two equally near ones the one whose
last bit is zero, and an infinity where that would be past the largest number. A negative `x`
that is nearest to zero gives the negative zero. -/
def round (x : Rat) : Binary f :=
  let unit := twoTo (f.lastBit x)
  let y := nearestEven (x / unit) * unit
  if f.largest < y then .infinity false
  else if y < -f.largest then .infinity true
  else if y = 0 ∧ x < 0 then .negativeZero
  else .number y

/-- The number nearest to an integer. -/
def ofInt (n : Int) : Binary f := round n

/-- The value of a finite number. -/
def value? : Binary f → Option Rat
  | .nan | .infinity _ => none
  | .negativeZero => some 0
  | .number x => some x

/-- Whether the sign bit is set. -/
def isNegative : Binary f → Bool
  | .nan => false
  | .infinity negative => negative
  | .negativeZero => true
  | .number x => decide (x < 0)

/-- Brings a number into another format. -/
def convert : Binary f → Binary g
  | .nan => .nan
  | .infinity negative => .infinity negative
  | .negativeZero => .negativeZero
  | .number x => round x

end Binary

end PadMapping
