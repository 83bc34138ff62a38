import ProfilingSession.FileTree.Node

/-!
# The difference between two trees

What is new or changed in a tree, compared with an earlier one, and what is gone from it. Files are
compared by their bytes and links by their paths; a directory differs from another one only in its
entries, which count on their own.
-/

namespace ProfilingSession.FileTree

mutual

/-- All nodes below a node, with their locations after a given one. -/
def Node.contents (location : Location) (node : Node) : List (Location × Node) :=
  match node with
  | .directory _ entries => Node.contentsOf location entries
  | _ => []
termination_by sizeOf node

/-- All nodes in and below some entries. -/
def Node.contentsOf (location : Location) (entries : List (String × Node)) :
    List (Location × Node) :=
  match entries with
  | [] => []
  | (name, node) :: rest =>
    let here := location ++ [name]
    (here, node) :: (Node.contents here node ++ Node.contentsOf location rest)
termination_by sizeOf entries

end

/-- The text of a location below a directory. -/
def Location.text (location : Location) : String :=
  "/".intercalate location

/-- Whether two nodes are alike, apart from what is below them. -/
def Node.alike : Node → Node → Bool
  | .file _ a, .file _ b => a == b
  | .directory .., .directory .. => true
  | .link a, .link b => a == b
  | _, _ => false

structure Difference where
  /-- What is new or changed, with its path, in the order of the paths. -/
  changed : List (String × Node)
  /-- The paths of what is gone, in order. -/
  removed : List String

def difference (before after : Node) : Difference :=
  let changed := (after.contents []).filter fun (location, node) =>
    match before.get? location with
    | some old => !old.alike node
    | none => true
  let removed := (before.contents []).filter fun (location, _) => (after.get? location).isNone
  ⟨(changed.map fun (location, node) => (location.text, node)).mergeSort fun a b => a.1 ≤ b.1,
    (removed.map fun (location, _) => location.text).mergeSort fun a b => a ≤ b⟩

end ProfilingSession.FileTree
