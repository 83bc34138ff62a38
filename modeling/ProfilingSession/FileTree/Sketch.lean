import ProfilingSession.FileTree.Basic

/-!
# Sketches of file trees

A sketch is a file tree put together from what is at a few paths, with the directories above them.
It is as good as the whole tree for whoever looks at those paths only.
-/

namespace ProfilingSession.FileTree

/-- The location that a path leads to in a tree without links. -/
def Location.ofPath (working : Location) (path : Path) : Location :=
  (Path.steps path).foldl
    (fun location name => if name = ".." then location.dropLast else location ++ [name])
    (if Path.isAbsolute path then [] else working)

/-- A node with a directory at a location unless there is something. -/
def Node.ensure (root : Node) (location : Location) : Node :=
  if (root.get? location).isSome then root else root.set (some .empty) location

/-- A node with another one at a location, below directories. -/
def Node.graft (root : Node) (location : Location) (node : Node) : Node :=
  let above := (List.range location.length).map fun n => location.take n
  let root := above.foldl Node.ensure root
  if node.isDirectory then root.ensure location else root.set (some node) location

/-- The tree of what is at some paths. -/
def sketch (working : Location) (found : List (Path × Node)) : FileTree :=
  let root := found.foldl
    (fun root entry => root.graft (Location.ofPath working entry.1) entry.2)
    (Node.empty.graft working .empty)
  ⟨root, working⟩

end ProfilingSession.FileTree
