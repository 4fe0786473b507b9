import PadMapping.Decimal.Shortest

/-!
# Writing binary numbers as decimals

A number is written with its shortest digits, positionally or with an exponent. A `Layout` says
which digits are taken in a tie, and which of the two ways of writing for which sizes. Positional
numbers always show a point with at least one digit behind it.
-/

namespace PadMapping.Decimal

/-- How numbers are written. -/
structure Layout where
  tie : Tie
  /-- The orders of magnitude (exponents of the leading digit) that are written positionally;
  all if there are no bounds. -/
  positional : Option (Int × Int)
deriving Repr

/-- Whether numbers of the given order are written positionally. -/
def Layout.isPositional (layout : Layout) (order : Int) : Bool :=
  match layout.positional with
  | none => true
  | some (least, greatest) => decide (least ≤ order) && decide (order ≤ greatest)

/-- The digits with a point `scale` digits before their end. -/
def withPoint (digits : List Char) (scale : Int) : List Char :=
  if scale ≤ 0 then digits ++ List.replicate (-scale).toNat '0' ++ ['.', '0']
  else
    let padded := List.replicate (scale.toNat + 1 - digits.length) '0' ++ digits
    let cut := padded.length - scale.toNat
    padded.take cut ++ '.' :: padded.drop cut

/-- The digits with a point behind the first one, if there are more, and the exponent with its
sign. -/
def withExponent (digits : List Char) (order : Int) : List Char :=
  let point := match digits with
    | first :: second :: rest => first :: '.' :: second :: rest
    | _ => digits
  point ++ ['e', if order < 0 then '-' else '+'] ++ Nat.toDigits 10 order.natAbs

/-- Drops the zeros at the end of the digits. -/
def normalized (d : Decimal) : List Char × Int :=
  let digits := Nat.toDigits 10 d.digits
  let kept := (digits.reverse.dropWhile (· = '0')).reverse
  (kept, d.exponent + (digits.length - kept.length : Nat))

/-- A positive number in the given layout. -/
def Layout.write (layout : Layout) (d : Decimal) : List Char :=
  let (digits, exponent) := normalized d
  let order := exponent + digits.length - 1
  if layout.isPositional order then withPoint digits (-exponent)
  else withExponent digits order

/-- Any number in the given layout. -/
def Layout.show (layout : Layout) {f : Binary.Format} : Binary f → String
  | .nan => "NaN"
  | .infinity negative => if negative then "-inf" else "inf"
  | .negativeZero => "-0.0"
  | .number x =>
    if x = 0 then "0.0"
    else
      let digits := String.ofList (layout.write (shortest layout.tie f x.abs))
      if x < 0 then "-" ++ digits else digits

end PadMapping.Decimal
