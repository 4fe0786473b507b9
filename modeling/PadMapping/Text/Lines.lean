/-!
# Lines of input

Input is read line by line. A line ends at a line feed, and a carriage return right before
it belongs to the ending. What follows the last line feed is a line of its own unless it is
empty.
-/

namespace PadMapping.Text

/-- Line feed. -/
def lineFeed : UInt8 := 0x0A

/-- Carriage return. -/
def carriageReturn : UInt8 := 0x0D

/-- A line without the carriage return of its ending. -/
def chomp (line : List UInt8) : List UInt8 :=
  if line.getLast? = some carriageReturn then line.dropLast else line

/-- Splits at line feeds; `current` is the line that is being read, last byte first. -/
def splitLines (current : List UInt8) : List UInt8 → List (List UInt8)
  | [] => if current.isEmpty then [] else [current.reverse]
  | b :: rest =>
    if b = lineFeed then chomp current.reverse :: splitLines [] rest
    else splitLines (b :: current) rest

/-- The lines of an input, without their endings. -/
def lines (input : List UInt8) : List (List UInt8) := splitLines [] input

end PadMapping.Text
