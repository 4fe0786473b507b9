import PadMapping.Files.Fault

/-!
# Paths

A path is read as the names between its slashes. A single dot names the directory in which it
stands, and two dots the one above. Empty names mean nothing, but a slash at the end asks for a
directory.
-/

namespace PadMapping.Path

/-- The texts between the slashes; `current` is the one that is being read, last character
first. -/
def splitSlashes (current : List Char) : List Char → List (List Char)
  | [] => [current.reverse]
  | c :: rest =>
    if c = '/' then current.reverse :: splitSlashes [] rest
    else splitSlashes (c :: current) rest

/-- The texts between the slashes of a path. -/
def pieces (path : String) : List String :=
  (splitSlashes [] path.toList).map String.ofList

/-- The names of a path. -/
def names (path : String) : List String := (pieces path).filter (· != "")

/-- Whether a path begins at the root. -/
def isAbsolute (path : String) : Bool := path.toList.head? == some '/'

/-- Whether a path ends with a slash. -/
def endsWithSlash (path : String) : Bool := path.toList.getLast? == some '/'

/-- The path of a name inside a directory. -/
def join (directory name : String) : String :=
  if directory == "" || endsWithSlash directory then directory ++ name
  else directory ++ "/" ++ name

/-- Takes a path apart into its directory and its last name, if there is one. Empty names and
single dots at the end count for nothing. -/
def split (path : String) : String × Option String :=
  let isIdle := fun piece => piece == "" || piece == "."
  match (pieces path).reverse.dropWhile isIdle with
  | [] => (".", none)
  | name :: outer =>
    match outer.dropWhile isIdle with
    | [] => (if isAbsolute path then "/" else ".", some name)
    | outer => ("/".intercalate outer.reverse, some name)

/-- The most bytes that a name can have. -/
def maxName : Nat := 255

/-- The least number of bytes that is too much for a path. -/
def tooLong : Nat := 4096

/-- Checks what can be said of a path without looking anything up. -/
def check (path : String) : Except FileFault Unit :=
  if path.toList.contains '\x00' then .error .badPath
  else if path = "" then .error .notFound
  else if tooLong ≤ path.utf8ByteSize then .error .nameTooLong
  else .ok ()

end PadMapping.Path
