import Harvest.Command.Program
import Harvest.Rehearsal.Stores

/-!
# The machine of a rehearsal

A machine that the whole program can be rehearsed on: its files are the file tree, which is found at one
path and is the working directory as well, and what is printed is written down.
-/

namespace Harvest.Rehearsal.World

/-- The machine whose file tree is found at `mount`, with the standard job file at a path in it. Scratch
copies go into the working directory unless a job says otherwise. -/
def host (mount standardJobPath : String) (console : Command.Console) :
    Command.Host (StateM World) where
  files := fileSystem mount
  monitor := monitor
  standardJobPath := some (FileSystem.join mount standardJobPath)
  scratchLocation := mount
  console := console
  print := fun line => modify fun w => { w with printed := line :: w.printed }
  complain := fun line => modify fun w => { w with complaints := line :: w.complaints }

end Harvest.Rehearsal.World
