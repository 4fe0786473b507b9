import PadMapping.Control
import PadMapping.Json.Token
import PadMapping.Mismatch

/-!
# What can be wrong with a JSON text

Reading stops at the first problem. A text that breaks the grammar gets no further wording;
one that follows it but does not have the wanted shape is described.
-/

namespace PadMapping.Json

/-- How floating-point numbers are written in messages: positionally from 0.00001 on and below
10000000000000000, else with a signed exponent. A tie goes to the even digit. -/
def messageLayout : Decimal.Layout := ⟨.toEven, some (-5, 15)⟩

/-- The first problem of a text. -/
inductive Problem where
  /-- The text breaks the grammar. -/
  | text (why : Break)
  | mismatch (m : Mismatch)
  /-- A record was written as an array with too few items. -/
  | tooShort (length : Nat) (record : String) (fields : Nat)
  | duplicateField (name : String)
  | missingField (name : String)
  | unknownTarget (name : String)
  | label (e : LabelError)
  /-- A control with both a button and an axis. -/
  | bothKinds
  /-- A control with neither a button nor an axis. -/
  | neitherKind
deriving DecidableEq, Repr

namespace Problem

/-- The text ends too early. -/
abbrev ended : Problem := .text .ended

/-- There is a wrong character. -/
abbrev malformed : Problem := .text .malformed

/-- The wording shown for a problem; none for a text that breaks the grammar. -/
def message? : Problem → Option String
  | .text _ => none
  | .mismatch m => some (m.message messageLayout)
  | .tooShort length record fields =>
    some ("invalid length " ++ toString length ++ ", expected struct " ++ record ++ " with "
      ++ toString fields ++ " elements")
  | .duplicateField name => some ("duplicate field `" ++ name ++ "`")
  | .missingField name => some ("missing field `" ++ name ++ "`")
  | .unknownTarget name =>
    some ("unknown variant `" ++ name ++ "`, expected `button` or `axis`")
  | .label e => some e.message
  | .bothKinds => some "control has both 'button' and 'axis'"
  | .neitherKind => some "expected 'button' or 'axis'"

end Problem

end PadMapping.Json
