import ReleaseGate.CommandLine.Program
import ReleaseGate.History.Checkout

/-!
# The program in a workspace

The world of a program that runs in a file system with a history in it.
-/

namespace ReleaseGate.CommandLine

/-- The world that a workspace and some variables make. -/
def World.ofWorkspace (w : History.Workspace) (lookup : String → Option String)
    (console : Console := .brief) : World where
  directory := History.placePath w.cwd
  lookup := lookup
  files := w.tree.view w.cwd
  openRepository backend root := History.openRepository backend w root
  libraryFails root := (w.discover? root).isNone
  console := console

end ReleaseGate.CommandLine
