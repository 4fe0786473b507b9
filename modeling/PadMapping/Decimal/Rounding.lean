import PadMapping.Binary.Arithmetic
import PadMapping.Decimal.Shortest

/-!
# Decimals as binary numbers

The binary number that is nearest to a decimal. Decimals far outside the range of the format
are not worked out: their leading digit alone tells that they are past the largest number, or
below half of the smallest one.
-/

namespace PadMapping.Decimal

/-- Exponents of the leading digit past which numbers of the format end, on both sides. Powers
of ten are larger than the same powers of two. -/
def reach (f : Binary.Format) : Int := f.maxOrder + f.precision + 1

/-- The nearest number of the format, with the given sign. -/
def toBinary {f : Binary.Format} (negative : Bool) (d : Decimal) : Binary f :=
  let leading := d.exponent + width d.digits - 1
  if d.digits = 0 ∨ leading < -reach f then Binary.zero negative
  else if reach f < leading then .infinity negative
  else Binary.round (if negative then -d.value else d.value)

end PadMapping.Decimal
