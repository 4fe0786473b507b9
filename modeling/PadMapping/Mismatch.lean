import PadMapping.Decimal.Layout
import PadMapping.Text.Quoted

/-!
# Values of the wrong kind

Exports and settings are read from texts whose values carry a kind of their own. A value of
another kind than the wanted one is reported with what was found and what was wanted. Of
sequences and maps only the kind is shown.
-/

namespace PadMapping

/-- A value that was found, as far as messages show it. -/
inductive Found where
  | null
  | boolean (value : Bool)
  | integer (value : Int)
  | float (value : Double)
  | text (value : String)
  | sequence
  | map
deriving DecidableEq, Repr

/-- How a found value is shown, with floating-point numbers in the given layout. -/
def Found.describe (layout : Decimal.Layout) : Found → String
  | .null => "null"
  | .boolean value => "boolean `" ++ (if value then "true" else "false") ++ "`"
  | .integer value => "integer `" ++ toString value ++ "`"
  | .float value => "floating point `" ++ layout.show value ++ "`"
  | .text value => "string " ++ Text.quote value
  | .sequence => "sequence"
  | .map => "map"

/-- A kind of value that is wanted, by its name in messages. -/
structure Wanted where
  name : String
  /-- Whether integers are wanted, but none below zero. -/
  unsigned : Bool
deriving DecidableEq, Repr

namespace Wanted

/-- The index of a control or step. -/
def index : Wanted := ⟨"usize", true⟩

/-- A number of milliseconds. -/
def milliseconds : Wanted := ⟨"u64", true⟩

/-- A threshold. -/
def threshold : Wanted := ⟨"f32", false⟩

/-- A text. -/
def text : Wanted := ⟨"a string", false⟩

/-- A truth value. -/
def boolean : Wanted := ⟨"a boolean", false⟩

/-- A sequence of values. -/
def sequence : Wanted := ⟨"a sequence", false⟩

/-- The null behind a name that stands as a key. -/
def unit : Wanted := ⟨"unit", false⟩

/-- A record with the given name. -/
def record (name : String) : Wanted := ⟨"struct " ++ name, false⟩

end Wanted

/-- A value that is not what was wanted. -/
structure Mismatch where
  found : Found
  wanted : Wanted
deriving DecidableEq, Repr

/-- Whether the value has the right kind and is only too small. -/
def Mismatch.isTooSmall (m : Mismatch) : Bool :=
  match m.found with
  | .integer value => decide (value < 0) && m.wanted.unsigned
  | _ => false

/-- The wording shown for a mismatch. -/
def Mismatch.message (layout : Decimal.Layout) (m : Mismatch) : String :=
  (if m.isTooSmall then "invalid value: " else "invalid type: ")
    ++ m.found.describe layout ++ ", expected " ++ m.wanted.name

end PadMapping
