import ProfilingSession.FileTree.Change
import ProfilingSession.Session.Fault

/-!
# Collecting the profile

The consumer leaves its profile in a file where it ran, if it writes one at all. `collect` moves it
to where it is wanted; that there is none is no fault.
-/

namespace ProfilingSession

open FileTree (Path)

inductive Collected where
  | moved (destination : Path)
  | missing
  deriving DecidableEq, Repr

namespace Collected

/-- The file that the consumer writes. -/
def standardArtifact : Path := "deplog.txt"

def standardOutput : Path := "benchmark.result.slamp.profile"

end Collected

/-- Moves what is at a path, if there is something. -/
def collect (expected destination : Path) (tree : FileTree) :
    Except MoveFault (Collected × FileTree) :=
  if tree.hasNode expected then
    match tree.move expected destination with
    | .ok tree => .ok (.moved destination, tree)
    | .error cause => .error ⟨expected, destination, cause⟩
  else .ok (.missing, tree)

end ProfilingSession
