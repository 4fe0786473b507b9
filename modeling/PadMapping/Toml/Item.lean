import PadMapping.Toml.Value

/-!
# Building a TOML document

A document is put together line by line, and the ways in which a table can come about are told
apart, because they decide where keys may still be added:

* by a header of its own, `[a]`, after which only the lines below it add keys;
* as a part of other headers, `[a.b]`, in which case its own header may still come;
* by keys with dots, `a.b = 1`, in which case other such keys may add to it;
* as an element of an array, `[[a]]`, where headers mean the last element.

A table whose own header comes after it has come about takes its place from that header.
-/

namespace PadMapping.Toml

/-- How a table has come about. -/
inductive Origin where
  | header
  | otherHeader
  | dotted
deriving DecidableEq, Repr

/-- What stands behind a key of an unfinished document. -/
inductive Item where
  | value (v : Value)
  | table (origin : Origin) (items : List (String × Item))
  | tables (elements : List (List (String × Item)))

/-- The keys of an unfinished table. -/
abbrev Items := List (String × Item)

namespace Items

/-- What stands behind a key. -/
def get? (items : Items) (key : String) : Option Item := items.lookup key

/-- Replaces what stands behind a key. -/
def replace (items : Items) (key : String) (item : Item) : Items :=
  items.map fun (k, old) => if k = key then (k, item) else (k, old)

/-- Adds a key at the end. -/
def append (items : Items) (key : String) (item : Item) : Items := items ++ [(key, item)]

/-- Changes the last element of an array of tables. -/
def updateLast (f : Items → Option Items) (elements : List Items) : Option (List Items) := do
  let last ← elements.getLast?
  return elements.dropLast ++ [← f last]

/-- Puts a value behind a key with dots, given by the part in front of the last dot and the part
after it. In front of the last dot there have to be tables that came about by dotted keys;
`addable` says whether the present table is one of them, or the one whose lines these are. -/
def put (addable : Bool) (key : String) (v : Value) : List String → Items → Option Items
  | [], items =>
    if !addable || (items.get? key).isSome then none else some (items.append key (.value v))
  | name :: path, items =>
    match items.get? name with
    | none => do return items.append name (.table .dotted (← put true key v path []))
    | some (.table .dotted inner) => do
      return items.replace name (.table .dotted (← put true key v path inner))
    | some (.table .otherHeader inner) => do
      return items.replace name (.table .otherHeader (← put false key v path inner))
    | some (.tables elements) => do
      return items.replace name (.tables (← updateLast (put false key v path) elements))
    | some (.table .header _) | some (.value _) => none

/-- Changes the table to which the names of a header lead; tables that are not there yet come
about on the way. -/
def update (f : Items → Option Items) : List String → Items → Option Items
  | [], items => f items
  | name :: path, items =>
    match items.get? name with
    | none => do return items.append name (.table .otherHeader (← update f path []))
    | some (.table origin inner) => do
      return items.replace name (.table origin (← update f path inner))
    | some (.tables elements) => do
      return items.replace name (.tables (← updateLast (update f path) elements))
    | some (.value _) => none

/-- Takes the header `[…]` of a table, given by its last name. -/
def openTable (key : String) (items : Items) : Option Items :=
  match items.get? key with
  | none => some (items.append key (.table .header []))
  | some (.table .otherHeader inner) =>
    some (append (items.filter (·.1 != key)) key (.table .header inner))
  | some _ => none

/-- Takes the header `[[…]]` of an element of an array, given by its last name. -/
def openElement (key : String) (items : Items) : Option Items :=
  match items.get? key with
  | none => some (items.append key (.tables [[]]))
  | some (.tables elements) => some (items.replace key (.tables (elements ++ [[]])))
  | some _ => none

end Items

mutual

/-- The value of a finished item. -/
def Item.toValue : Item → Value
  | .value v => v
  | .table _ items => .table (toMembers items)
  | .tables elements => .array (toTables elements)

/-- The members of a finished table. -/
def toMembers : List (String × Item) → List (String × Value)
  | [] => []
  | (key, item) :: rest => (key, item.toValue) :: toMembers rest

/-- The elements of a finished array of tables. -/
def toTables : List (List (String × Item)) → List Value
  | [] => []
  | items :: rest => .table (toMembers items) :: toTables rest

end

/-- A key with dots. -/
structure KeyPath where
  /-- The names in front of the last dot. -/
  path : List String
  /-- The name after it. -/
  key : String
deriving DecidableEq, Repr

/-- An unfinished document, with the names of the header whose lines are read. -/
structure Builder where
  root : Items
  header : List String

namespace Builder

/-- Nothing has been read. -/
def empty : Builder := ⟨[], []⟩

/-- Takes a key with its value. -/
def assign (b : Builder) (k : KeyPath) (v : Value) : Option Builder := do
  return { b with root := ← Items.update (Items.put true k.key v k.path) b.header b.root }

/-- Takes the header of a table. -/
def openTable (b : Builder) (k : KeyPath) : Option Builder := do
  return ⟨← Items.update (Items.openTable k.key) k.path b.root, k.path ++ [k.key]⟩

/-- Takes the header of an element of an array. -/
def openElement (b : Builder) (k : KeyPath) : Option Builder := do
  return ⟨← Items.update (Items.openElement k.key) k.path b.root, k.path ++ [k.key]⟩

/-- The finished document. -/
def finish (b : Builder) : Table := toMembers b.root

end Builder

end PadMapping.Toml
