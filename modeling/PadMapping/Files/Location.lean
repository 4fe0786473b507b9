import PadMapping.Files.Path

/-!
# Locations

A location is where a path leads to. Many paths lead to one location. To follow a path, its
names are taken one after another, and each of them is looked up in a directory that is there:
what is behind a missing or other entry is not reached, not even by two dots.
-/

namespace PadMapping

/-- Where a file or directory is. -/
structure Location where
  /-- The path that leads there from the root without detours; empty for the root itself. -/
  path : String
deriving DecidableEq, Repr

/-- What stands at a location, as far as paths go. -/
inductive Presence where
  | directory
  | missing
  | file
deriving DecidableEq, Repr

namespace Location

/-- The root. -/
def root : Location := ⟨""⟩

/-- The location of a name in a directory. -/
def child (directory : Location) (name : String) : Location := ⟨directory.path ++ "/" ++ name⟩

/-- The directory above; the root has none but itself. -/
def parent (l : Location) : Location :=
  ⟨String.ofList ((l.path.toList.reverse.dropWhile (· ≠ '/')).drop 1).reverse⟩

/-- The path from a directory to a location below it. -/
def below? (directory l : Location) : Option String :=
  ((directory.path ++ "/").toList.isPrefixOf? l.path.toList).map String.ofList

/-- Follows names from a location on. There need not be anything at the end, but what is on the
way has to be directories. -/
def follow (present : Location → Presence) (l : Location) :
    List String → Except FileFault Location
  | [] => .ok l
  | name :: rest =>
    match present l with
    | .missing => .error .notFound
    | .file => .error .notDirectory
    | .directory =>
      if name = "." then follow present l rest
      else if name = ".." then follow present l.parent rest
      else if Path.maxName < name.utf8ByteSize then .error .nameTooLong
      else follow present (l.child name) rest

/-- The location to which a path leads, if it is seen from `directory`. -/
def resolve (present : Location → Presence) (directory : Location) (path : String) :
    Except FileFault Location := do
  Path.check path
  let l ← follow present (if Path.isAbsolute path then root else directory) (Path.names path)
  if Path.endsWithSlash path && present l == .file then throw .notDirectory
  return l

end Location

end PadMapping
