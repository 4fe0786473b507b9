import PadMapping.Decimal.Rounding
import PadMapping.Toml.Text
import PadMapping.Toml.Value

/-!
# Numbers, dates and times in TOML

Digits may be set apart by single underscores. Decimal numbers have no zeros in front. Integers
have to fit into 64 bits and fractions must not be past the largest number. Dates have to be
days of the calendar.
-/

namespace PadMapping.Toml

/-! ## Digits -/

/-- Reads more digits after a first one; an underscore needs a digit behind it. -/
def readMoreDigits (isDigit : Char → Bool) : List Char → Option (List Char × List Char)
  | '_' :: c :: rest => if isDigit c then prepend c (readMoreDigits isDigit rest) else none
  | ['_'] => none
  | c :: rest => if isDigit c then prepend c (readMoreDigits isDigit rest) else some ([], c :: rest)
  | [] => some ([], [])

/-- Reads digits, of which there has to be one. -/
def readDigits (isDigit : Char → Bool) : List Char → Option (List Char × List Char)
  | c :: rest => if isDigit c then prepend c (readMoreDigits isDigit rest) else none
  | [] => none

/-- Reads decimal digits without zeros in front. -/
def readWhole (cs : List Char) : Option (List Char × List Char) :=
  (readDigits Char.isDigit cs).filter fun (digits, _) =>
    !(digits.head? == some '0' && 1 < digits.length)

/-- Reads a sign; the number is negative after a minus. -/
def readSign : List Char → Bool × List Char
  | '-' :: rest => (true, rest)
  | '+' :: rest => (false, rest)
  | cs => (false, cs)

/-! ## Integers and fractions -/

/-- The digits of a base that is named by a letter. -/
def baseOf? : Char → Option (Nat × (Char → Bool))
  | 'x' => some (16, Text.isHexDigit)
  | 'o' => some (8, fun c => '0' ≤ c && c ≤ '7')
  | 'b' => some (2, fun c => c == '0' || c == '1')
  | _ => none

/-- An integer that fits into 64 bits. -/
def integer? (n : Int) : Option Value :=
  if -9223372036854775808 ≤ n ∧ n < 9223372036854775808 then some (.integer n) else none

/-- The value of digits of any base. -/
def digitsValue (base : Nat) (digits : List Char) : Nat :=
  digits.foldl (fun n c => n * base + (Text.hexDigit? c).getD 0) 0

/-- Reads an integer with a letter for its base. -/
def readBased : List Char → Option (Value × List Char)
  | '0' :: letter :: rest => do
    let (base, isDigit) ← baseOf? letter
    let (digits, rest) ← readDigits isDigit rest
    return (← integer? (digitsValue base digits), rest)
  | _ => none

/-- Reads a point with digits, if there is one. -/
def readFraction : List Char → Option (Option (List Char) × List Char)
  | '.' :: rest => (readDigits Char.isDigit rest).map fun (digits, rest) => (some digits, rest)
  | cs => some (none, cs)

/-- Reads an exponent, if there is one. -/
def readExponent : List Char → Option (Option Int × List Char)
  | c :: rest =>
    if c = 'e' ∨ c = 'E' then do
      let (negative, rest) := readSign rest
      let (digits, rest) ← readDigits Char.isDigit rest
      let size : Int := digitsValue 10 digits
      return (some (if negative then -size else size), rest)
    else some (none, c :: rest)
  | [] => some (none, [])

/-- The number for a fraction; one past the largest positive number is refused. -/
def float? (x : Double) : Option Value :=
  if x = .infinity false then none else some (.float x)

/-- Reads a decimal number: an integer, or a fraction if it has a point or an exponent. -/
def readDecimal (cs : List Char) : Option (Value × List Char) := do
  let (negative, cs) := readSign cs
  let (whole, cs) ← readWhole cs
  let (fraction, cs) ← readFraction cs
  let (exponent, cs) ← readExponent cs
  let value ← match fraction, exponent with
    | none, none =>
      let size : Int := digitsValue 10 whole
      integer? (if negative then -size else size)
    | fraction, exponent =>
      let behind := fraction.getD []
      let digits := digitsValue 10 (whole ++ behind)
      float? (Decimal.toBinary negative ⟨digits, exponent.getD 0 - behind.length⟩)
  return (value, cs)

/-- Reads the words for infinity and for no number, with or without a sign. -/
def readSpecial (cs : List Char) : Option (Value × List Char) :=
  match readSign cs with
  | (negative, 'i' :: 'n' :: 'f' :: rest) => some (.float (.infinity negative), rest)
  | (_, 'n' :: 'a' :: 'n' :: rest) => some (.float .nan, rest)
  | _ => none

/-! ## Dates and times -/

/-- Reads two digits. -/
def readPair : List Char → Option (Nat × List Char)
  | a :: b :: rest => (Text.digits? [a, b]).map ((·, rest))
  | _ => none

/-- Reads two digits that stand for a number within bounds. -/
def readBounded (low high : Nat) (cs : List Char) : Option (Nat × List Char) :=
  (readPair cs).filter fun (n, _) => low ≤ n && n ≤ high

/-- How many days a month has. -/
def daysIn (year month : Nat) : Nat :=
  if month = 2 then
    if year % 4 = 0 ∧ (year % 100 ≠ 0 ∨ year % 400 = 0) then 29 else 28
  else if month = 4 ∨ month = 6 ∨ month = 9 ∨ month = 11 then 30
  else 31

/-- Reads a certain character. -/
def readChar (c : Char) : List Char → Option (List Char)
  | d :: rest => if c = d then some rest else none
  | [] => none

/-- Reads a date. -/
def readDate (cs : List Char) : Option (List Char) := do
  let (century, cs) ← readPair cs
  let (year, cs) ← readPair cs
  let cs ← readChar '-' cs
  let (month, cs) ← readBounded 1 12 cs
  let cs ← readChar '-' cs
  let (_, cs) ← readBounded 1 (daysIn (century * 100 + year) month) cs
  return cs

/-- Reads a fraction of a second, if there is one. -/
def readSecondFraction : List Char → Option (List Char)
  | '.' :: c :: rest => if c.isDigit then some (rest.dropWhile Char.isDigit) else none
  | ['.'] => none
  | cs => some cs

/-- Reads a time of day. -/
def readTime (cs : List Char) : Option (List Char) := do
  let (_, cs) ← readBounded 0 23 cs
  let cs ← readChar ':' cs
  let (_, cs) ← readBounded 0 59 cs
  let cs ← readChar ':' cs
  let (_, cs) ← readBounded 0 60 cs
  readSecondFraction cs

/-- Reads the distance to universal time, if it is given. -/
def readOffset : List Char → Option (List Char)
  | c :: rest =>
    if c = 'Z' ∨ c = 'z' then some rest
    else if c = '+' ∨ c = '-' then do
      let (_, rest) ← readBounded 0 23 rest
      let rest ← readChar ':' rest
      let (_, rest) ← readBounded 0 59 rest
      return rest
    else some (c :: rest)
  | [] => some []

/-- Reads the time of day that may come after a date. -/
def readDayTime : List Char → Option (List Char)
  | c :: rest =>
    if c = 'T' ∨ c = 't' ∨ c = ' ' then readTime rest >>= readOffset else none
  | [] => none

/-- Reads a date, a time, or both. -/
def readMoment (cs : List Char) : Option (Value × List Char) :=
  let rest := match readDate cs with
    | some rest => some ((readDayTime rest).getD rest)
    | none => readTime cs
  rest.map fun rest => (.time, rest)

/-- Reads a number, a date or a time. -/
def readNumber (cs : List Char) : Option (Value × List Char) :=
  readMoment cs <|> readSpecial cs <|> readBased cs <|> readDecimal cs

end PadMapping.Toml
