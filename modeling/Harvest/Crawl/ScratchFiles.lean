import Harvest.Crawl.Sink
import Harvest.FileSystem

/-!
# Scratch copies in files

Scratch copies as files of a directory.
-/

namespace Harvest

/-- Scratch copies in a directory; the empty path is the working directory. -/
def Scratch.ofFiles {m : Type → Type} (fs : FileSystem m) (location : String) : Scratch m where
  location := location
  create := fs.create (if location.isEmpty then "." else location)
  clear := fun path => fs.write path .empty
  append := fs.append
  read := fs.read
  discard := fs.remove

end Harvest
