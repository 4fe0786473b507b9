import PadMapping.Export.Store
import PadMapping.Terminal
import PadMapping.View.Basic

/-!
# The surroundings of the program

The terminal on which frames are drawn, the files into which exports are saved, and the time
that goes into their names.
-/

namespace PadMapping

/-- A terminal, files and a clock. -/
structure Host where
  screen : Sink
  files : FileTree
  /-- The present time as it stands in the names of files. -/
  stamp : String

namespace Host

/-- Draws a frame on the terminal. -/
def draw (frame : Frame) (host : Host) : Host × Except FileFault Unit :=
  let (screen, outcome) := host.screen.draw frame
  ({ host with screen }, outcome)

/-- Saves an export in a folder. -/
def save (folder : String) (e : Export) (host : Host) : Host × Except FileFault Unit :=
  let (files, outcome) := e.save folder host.stamp host.files
  ({ host with files }, outcome.map fun _ => ())

/-- What a view draws on and saves to. -/
def outlet : Outlet Host := ⟨draw, save⟩

end Host

end PadMapping
