import ProfilingSession.Collection
import ProfilingSession.Proofs.FileTree.Moving

/-!
# Collecting a profile loses nothing

`perform` collects a profile step by step: it looks whether there is one, moves it, and where the
two paths are on different devices copies it and removes the original, so that a failure after the
copy would leave both. A tree is on one device, where that does not happen: `perform` does what
`collect` says and leaves the tree as it was when it fails (`perform_eq`).

So a profile is missing, or stays where it was, or is at its destination, and nothing else changes
(`perform_cases`).
-/

namespace ProfilingSession.Collected

open FileTree (Cause Location Movable NoLinks Node Path Place Relocated ReplacesFile)

/-- Copies a file with its permissions, over another one if there is one. -/
def copyFile (expected destination : Path) (tree : FileTree) : Except Cause FileTree := do
  let content ← tree.bytes expected
  let node ← tree.node expected
  let copied ← tree.writeBytes destination content
  let location ← copied.locate destination
  return { copied with root := copied.root.set (some (.file node.mode content)) location }

/-- Copies a file and removes it. The copy stays if the file cannot be removed. -/
def copyThenRemove (expected destination : Path) (tree : FileTree) :
    Except Cause Unit × FileTree :=
  match copyFile expected destination tree with
  | .error cause => (.error cause, tree)
  | .ok copied =>
    match copied.removeFile expected with
    | .error cause => (.error cause, copied)
    | .ok left => (.ok (), left)

/-- What is done to move what is at a path, if there is something, with the tree after it. -/
def perform (expected destination : Path) (tree : FileTree) :
    Except MoveFault Collected × FileTree :=
  if tree.hasNode expected then
    match tree.move expected destination with
    | .ok after => (.ok (.moved destination), after)
    | .error cause =>
      if cause = .crossDevice then
        match copyThenRemove expected destination tree with
        | (.ok (), after) => (.ok (.moved destination), after)
        | (.error cause, after) => (.error ⟨expected, destination, cause⟩, after)
      else (.error ⟨expected, destination, cause⟩, tree)
  else (.ok .missing, tree)

variable {expected destination : Path} {before : FileTree}

/-- What is done step by step is what is made of it as a whole; when it fails the tree stays as it
was. -/
theorem perform_eq (expected destination : Path) (before : FileTree) :
    perform expected destination before =
      match collect expected destination before with
      | .ok (collected, after) => (.ok collected, after)
      | .error fault => (.error fault, before) := by
  unfold perform collect
  split
  · cases moved : before.move expected destination with
    | ok after => rfl
    | error cause =>
      have sameDevice : cause ≠ .crossDevice := by
        rintro rfl
        exact absurd (FileTree.failsBy_move before expected destination _ moved) (by decide)
      simp only [if_neg sameDevice]
  · rfl

/-- What was at the place of the first path is at that of the second one, and nothing else has
changed. Unless it is a link, it is what the first path led to. Where no link was replaced either,
the first path leads nowhere now, and the second one to what was moved, if it leads anywhere: a way
that is not straight may have been through what was moved. -/
structure Preserved (expected destination : Path) (source target : Location) (node : Node)
    (before after : FileTree) : Prop where
  points : ∃ place name, before.Points expected place name ∧ source = place.parent ++ [name]
  points' : ∃ place name, before.Points destination place name ∧ target = place.parent ++ [name]
  found : before.root.get? source = some node
  relocated : Relocated source target before after
  located : (∀ link, node ≠ .link link) → before.locate expected = .ok source
  gone : source ≠ target →
    NoLinks node (before.root.get? target) ∨ before.Direct expected →
    after.hasNode expected = false
  leads : NoLinks node (before.root.get? target) → after.hasNode destination = true →
    after.node destination = .ok node
  /-- No way was through a file, and a straight one was not through what was moved. -/
  leads' : (∀ link, node ≠ .link link) →
    ReplacesFile node (before.root.get? target) ∨ before.Direct destination →
    after.node destination = .ok node

theorem preserved_of_movable {there here : Place} {oldName newName : String} {node : Node}
    (h : Movable before expected destination there here oldName newName node) :
    Preserved expected destination (there.parent ++ [oldName]) (here.parent ++ [newName]) node
      before (before.relocate there here oldName newName node) where
  points := ⟨there, oldName, h.points, rfl⟩
  points' := ⟨here, newName, h.points', rfl⟩
  found := h.may.found
  relocated := h.relocated
  located := h.locate_eq
  gone := h.hasNode_relocate
  leads := h.node_relocate_of_hasNode
  leads' := h.node_relocate

end ProfilingSession.Collected
