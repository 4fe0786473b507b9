import PadMapping.Binary.Basic

/-!
# Shortest decimals

The decimal with the fewest digits that still reads back as a given binary number and, of
those, the one nearest to it. Where two of them are equally near, a `Tie` says which one is taken.
A decimal reads back if it lies among the rationals that round
to the number; the two ends of that interval do so only if the last bit of the number is zero.

On a grid of decimals with a given last digit the nearest ones are the two around the number,
so for each number of digits only these two have to be looked at.
-/

namespace PadMapping

/-- The decimal `digits * 10 ^ exponent`. -/
structure Decimal where
  digits : Nat
  exponent : Int
deriving DecidableEq, Repr

namespace Decimal

/-- The power of ten with exponent `e`. -/
def tenTo : Int → Rat
  | .ofNat n => (Nat.pow 10 n : Nat)
  | .negSucc n => mkRat 1 (Nat.pow 10 (n + 1))

/-- The value of a decimal. -/
def value (d : Decimal) : Rat := d.digits * tenTo d.exponent

/-- How many decimal digits a number has. -/
def width (n : Nat) : Nat := (Nat.toDigits 10 n).length

/-- The exponent of the leading decimal digit: the `e` with `10 ^ e ≤ x < 10 ^ (e + 1)`, for
`0 < x`. -/
def order (x : Rat) : Int :=
  if 1 ≤ x then (width x.floor.toNat : Int) - 1
  else -(width ((1 / x).ceil.toNat - 1) : Int)

/-- The rationals that round to a positive number of a format. -/
structure Basin where
  low : Rat
  high : Rat
  /-- Whether the two ends belong to it. -/
  closed : Bool

/-- The rationals that round to `x`, a positive number of the format `f`. Below a power of two
the neighbour is only half as far away as above it, unless the numbers are evenly spaced there
because they are the smallest of the format. -/
def Basin.of (f : Binary.Format) (x : Rat) : Basin :=
  let unit := Binary.twoTo (f.lastBit x)
  let isPower := x = Binary.twoTo (Binary.order x)
  let below := if isPower ∧ f.minOrder < Binary.order x then unit / 2 else unit
  ⟨x - below / 2, x + unit / 2, (x / unit).floor % 2 = 0⟩

/-- Whether a rational belongs to the interval. -/
def Basin.contains (b : Basin) (y : Rat) : Bool :=
  if b.closed then decide (b.low ≤ y) && decide (y ≤ b.high)
  else decide (b.low < y) && decide (y < b.high)

/-- Which of two equally near decimals is taken. -/
inductive Tie where
  /-- The one with an even last digit. -/
  | toEven
  /-- The greater one, so that numbers with a sign go away from zero. -/
  | up
deriving DecidableEq, Repr

/-- Whether the lower one of two equally near decimals is taken. -/
def Tie.takesLower (tie : Tie) (lower : Decimal) : Bool :=
  match tie with
  | .toEven => lower.digits % 2 == 0
  | .up => false

/-- The nearest decimal to `x` with the given number of digits that lies in the interval. -/
def nearest? (tie : Tie) (basin : Basin) (x : Rat) (count : Nat) : Option Decimal :=
  let exponent := order x - (count - 1 : Nat)
  let down := (x / tenTo exponent).floor.toNat
  let low : Decimal := ⟨down, exponent⟩
  let high : Decimal := ⟨down + 1, exponent⟩
  let toLow := x - low.value
  let toHigh := high.value - x
  let first := if toLow < toHigh ∨ (toLow = toHigh ∧ tie.takesLower low) then low else high
  let second := if first = low then high else low
  if basin.contains first.value then some first
  else if basin.contains second.value then some second
  else none

/-- How many decimal digits always suffice to tell the numbers of a format apart. -/
def enoughDigits (f : Binary.Format) : Nat := f.precision * 30103 / 100000 + 2

/-- The shortest decimal that reads back as `x`, a positive number of the format `f`. -/
def shortest (tie : Tie) (f : Binary.Format) (x : Rat) : Decimal :=
  let basin := Basin.of f x
  let counts := (List.range (enoughDigits f)).map (· + 1)
  (counts.findSome? (nearest? tie basin x)).getD ⟨0, 0⟩

end Decimal

end PadMapping
