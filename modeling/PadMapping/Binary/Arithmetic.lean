import PadMapping.Binary.Basic

/-!
# Arithmetic and order of binary numbers

Sums, products and quotients are exact and then rounded. The cases without an exact result
are those of the interchange standard: infinities of opposite sign cancel to no number, as do
`0 * ∞`, `0 / 0` and `∞ / ∞`, and a comparison with no number is false.
-/

namespace PadMapping.Binary

variable {f : Format}

/-- Zero with the given sign. -/
def zero (negative : Bool) : Binary f := if negative then .negativeZero else .number 0

/-- The number with the opposite sign. -/
def neg : Binary f → Binary f
  | .nan => .nan
  | .infinity negative => .infinity !negative
  | .negativeZero => .number 0
  | .number x => if x = 0 then .negativeZero else .number (-x)

/-- Zeros that cancel or add up give the negative zero only if both are negative. -/
def add : Binary f → Binary f → Binary f
  | .nan, _ | _, .nan => .nan
  | .infinity a, .infinity b => if a = b then .infinity a else .nan
  | .infinity a, _ => .infinity a
  | _, .infinity b => .infinity b
  | .negativeZero, .negativeZero => .negativeZero
  | .negativeZero, .number y => .number y
  | .number x, .negativeZero => .number x
  | .number x, .number y => round (x + y)

/-- The difference is the sum with the opposite number. -/
def sub (x y : Binary f) : Binary f := add x (neg y)

/-- The product, negative where exactly one factor is. -/
def mul (x y : Binary f) : Binary f :=
  let negative := x.isNegative != y.isNegative
  match x, y with
  | .nan, _ | _, .nan => .nan
  | .infinity _, .infinity _ => .infinity negative
  | .infinity _, y => if y.value? = some 0 then .nan else .infinity negative
  | x, .infinity _ => if x.value? = some 0 then .nan else .infinity negative
  | .negativeZero, _ | _, .negativeZero => zero negative
  | .number x, .number y => if x * y = 0 then zero negative else round (x * y)

/-- The quotient, negative where exactly one of the two is. -/
def div (x y : Binary f) : Binary f :=
  let negative := x.isNegative != y.isNegative
  match x, y with
  | .nan, _ | _, .nan => .nan
  | .infinity _, .infinity _ => .nan
  | .infinity _, _ => .infinity negative
  | _, .infinity _ => zero negative
  | x, .negativeZero => if x.value? = some 0 then .nan else .infinity negative
  | .negativeZero, .number y => if y = 0 then .nan else zero negative
  | .number x, .number y =>
    if y = 0 then (if x = 0 then .nan else .infinity negative)
    else if x = 0 then zero negative
    else round (x / y)

/-- Strictly less; false where one side is no number. -/
def lt : Binary f → Binary f → Bool
  | .nan, _ | _, .nan => false
  | .infinity a, .infinity b => a && !b
  | .infinity a, _ => a
  | _, .infinity b => !b
  | .negativeZero, .negativeZero => false
  | .negativeZero, .number y => decide (0 < y)
  | .number x, .negativeZero => decide (x < 0)
  | .number x, .number y => decide (x < y)

end PadMapping.Binary
