import PadMapping.Files.Location

/-!
# A tree of files

Files and directories, each at its location, with one directory in which work is done: paths that
do not begin at the root are seen from there.
-/

namespace PadMapping

/-- What can be at a location. -/
inductive Entry where
  | file (content : ByteArray)
  | directory

/-- Files and directories below the root. -/
structure FileTree where
  workingDirectory : Location
  entries : List (Location × Entry)

namespace FileTree

variable (tree : FileTree)

/-- What is at a location. The root is always there. -/
def entry? (l : Location) : Option Entry :=
  if l = .root then some .directory else tree.entries.lookup l

/-- Whether something is at a location. -/
def present (l : Location) : Presence :=
  match tree.entry? l with
  | none => .missing
  | some .directory => .directory
  | some (.file _) => .file

/-- Adds an entry. -/
def add (l : Location) (entry : Entry) : FileTree :=
  { tree with entries := tree.entries ++ [(l, entry)] }

/-- The files below the working directory by their paths from there, in the order in which they
were added. -/
def files : List (String × ByteArray) :=
  tree.entries.filterMap fun (l, entry) =>
    match entry with
    | .file content => (tree.workingDirectory.below? l).map fun path => (path, content)
    | .directory => none

/-- The location to which a path leads. -/
def resolve (path : String) : Except FileFault Location :=
  Location.resolve tree.present tree.workingDirectory path

/-! ## Reading -/

/-- The content of a file. -/
def read (path : String) : Except FileFault ByteArray := do
  match tree.entry? (← tree.resolve path) with
  | none => throw .notFound
  | some .directory => throw .isDirectory
  | some (.file content) => return content

/-- The content of a file that holds text. -/
def readText (path : String) : Except FileFault String := do
  match String.fromUTF8? (← tree.read path) with
  | some text => return text
  | none => throw .notText

/-! ## Making files -/

/-- Makes a new file at a path with a name at its end. Nothing may be there yet. -/
def create (path : String) (content : ByteArray) : Except FileFault FileTree := do
  let l ← tree.resolve path
  match tree.entry? l with
  | some _ => throw .alreadyExists
  | none => return tree.add l (.file content)

/-! ## Making directories -/

/-- Why a file cannot serve as the directory that is to be made for a name. Once a directory was
made on the way, each further one is made on its own; before that, the path is only followed to
its end. A single dot at the end is always followed. -/
def standsInTheWay (made : Bool) (rest : List String) : FileFault :=
  if rest.isEmpty || made && !rest.all (· == ".") then .alreadyExists else .notDirectory

/-- Makes the directories to which names lead from a directory on, where they are not there
already, and gives the last one. No directory is made for a name behind which only dots stand:
they would have to be followed before it is there. -/
def makeNames (directory : Location) (made : Bool) :
    List String → FileTree → FileTree × Except FileFault Location
  | [], tree => (tree, .ok directory)
  | name :: rest, tree =>
    if name = "." then makeNames directory made rest tree
    else if name = ".." then makeNames directory.parent made rest tree
    else if Path.maxName < name.utf8ByteSize then (tree, .error .nameTooLong)
    else
      let next := directory.child name
      match tree.present next with
      | .directory => makeNames next made rest tree
      | .file => (tree, .error (standsInTheWay made rest))
      | .missing =>
        if !rest.isEmpty && rest.all (· == ".") then (tree, .error .notFound)
        else makeNames next true rest (tree.add next .directory)

/-- Makes a directory and those on the way to it. -/
def makeDirectories (path : String) : FileTree × Except FileFault Location :=
  if path = "" then (tree, .ok tree.workingDirectory)
  else
    match Path.check path with
    | .error fault => (tree, .error fault)
    | .ok () =>
      makeNames (if Path.isAbsolute path then .root else tree.workingDirectory) false
        (Path.names path) tree

/-! ## Building trees -/

/-- Nothing but a working directory and those on the way to it. -/
def empty (workingDirectory : String) : FileTree :=
  match makeDirectories ⟨.root, []⟩ workingDirectory with
  | (tree, .ok l) => { tree with workingDirectory := l }
  | (tree, .error _) => tree

/-- The tree with a file at a path, in place of any other. -/
def withFile (path : String) (content : ByteArray) : FileTree :=
  match Path.split path with
  | (directory, some name) =>
    match tree.makeDirectories directory with
    | (tree, .ok directory) =>
      let l := directory.child name
      { tree with entries := tree.entries.filter (·.1 != l) }.add l (.file content)
    | (tree, .error _) => tree
  | (_, none) => tree

end FileTree

end PadMapping
