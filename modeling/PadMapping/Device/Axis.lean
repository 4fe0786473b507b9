import PadMapping.Binary.Arithmetic

/-!
# The scale of an axis

A device reports an axis as an integer between a least and a greatest value of its own. It is
brought to the scale from -1 to 1, or from 0 to 1 for an axis that rests at its least value,
such as a trigger, so that an axis at rest reads as zero.
-/

namespace PadMapping

/-- The scale of one axis. -/
structure AxisRange where
  least : Int
  greatest : Int
  /-- Whether the axis has only one direction. -/
  unipolar : Bool
deriving DecidableEq, Repr

/-- Brings a value to the scale of its axis, in arithmetic of 32-bit numbers. Values outside
the range count as its ends, and all values of an empty range as zero. -/
def AxisRange.normalize (range : AxisRange) (value : Int) : Single :=
  if range.greatest ≤ range.least then .number 0
  else
    let inside := max range.least (min value range.greatest)
    let low : Single := .ofInt range.least
    let fraction := ((Binary.ofInt inside).sub low).div ((Binary.ofInt range.greatest).sub low)
    if range.unipolar then fraction
    else (fraction.mul (.ofInt 2)).sub (.ofInt 1)

end PadMapping
