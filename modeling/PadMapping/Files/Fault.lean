/-!
# What can go wrong with files

The causes for which a file operation or the writing of output fails, with the wording that the
system gives them.
-/

namespace PadMapping

/-- A failed file operation. -/
inductive FileFault where
  | notFound
  | alreadyExists
  | notDirectory
  | isDirectory
  | nameTooLong
  /-- A path with a character that no path can have. -/
  | badPath
  /-- The bytes of a file are no text. -/
  | notText
  /-- There is no room left for output. -/
  | full
deriving DecidableEq, Repr

/-- The wording shown for a failed file operation. -/
def FileFault.message : FileFault → String
  | .notFound => "No such file or directory (os error 2)"
  | .alreadyExists => "File exists (os error 17)"
  | .notDirectory => "Not a directory (os error 20)"
  | .isDirectory => "Is a directory (os error 21)"
  | .nameTooLong => "File name too long (os error 36)"
  | .badPath => "file name contained an unexpected NUL byte"
  | .notText => "stream did not contain valid UTF-8"
  | .full => "sink full"

end PadMapping
