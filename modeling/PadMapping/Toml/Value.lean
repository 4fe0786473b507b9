import PadMapping.Binary.Basic

/-!
# TOML values

What a TOML document says, without the many ways of saying it. Tables keep the order in which
their keys appear. Of dates and times only that they are there is kept.
-/

namespace PadMapping.Toml

/-- A value of a document. -/
inductive Value where
  | text (s : String)
  | integer (n : Int)
  | float (x : Double)
  | boolean (b : Bool)
  | time
  | array (items : List Value)
  | table (members : List (String × Value))

/-- A table: keys with their values, in the order of the document. -/
abbrev Table := List (String × Value)

end PadMapping.Toml
