import ProfilingSession.FileTree.Change
import ProfilingSession.Session.Fault

/-!
# Channels

A channel is known by a number, its id. Its segment, a file in a directory that all sessions share,
is made by the consumer; before, the session reserves the id by making a marker, a file beside the
segment, which fails if it is there. `reserve` looks at candidates one by one: one whose segment or
marker is there is passed over, and the first other one is reserved.

A `Slot` is a reserved id. `release` removes its segment and then its marker, and stops at the
first thing that cannot be removed; `abandon` tries to remove both.
-/

namespace ProfilingSession

open FileTree (Cause Path)

structure Channels where
  directory : Path
  /-- The first and the last id. -/
  low : Nat
  high : Nat
  /-- How many candidates are looked at. -/
  attempts : Nat
  deriving DecidableEq, Repr

/-- A reserved id, with the paths of its segment and marker. -/
structure Slot where
  id : Nat
  segment : Path
  marker : Path
  deriving DecidableEq, Repr

namespace Channels

/-- Where segments are unless another directory is given. -/
def standardDirectory : Path := "/dev/shm"

def inDirectory (directory : Path) : Channels :=
  ⟨directory, 0, 999, 128⟩

def withRange (channels : Channels) (low high : Nat) : Channels :=
  { channels with low := low, high := high }

/-- The channels with another number of candidates, at least one. -/
def withAttempts (channels : Channels) (attempts : Nat) : Channels :=
  { channels with attempts := max attempts 1 }

def segmentName (id : Nat) : String :=
  "slamp_queue_" ++ toString id

def markerName (id : Nat) : String :=
  segmentName id ++ ".lock"

def segment (channels : Channels) (id : Nat) : Path :=
  Path.join channels.directory (segmentName id)

def marker (channels : Channels) (id : Nat) : Path :=
  Path.join channels.directory (markerName id)

def slot (channels : Channels) (id : Nat) : Slot :=
  ⟨id, channels.segment id, channels.marker id⟩

/-- What a marker says: the process that made it. -/
def markerText (owner : Nat) : String :=
  toString owner ++ "\n"

/-- Removes a file; it does not matter if there is none. -/
def removeIfThere (tree : FileTree) (path : Path) : Except Cause FileTree :=
  match tree.removeFile path with
  | .error .absent => .ok tree
  | result => result

inductive Attempt where
  | reserved (tree : FileTree)
  /-- The id is in use; the tree is as before, apart from others' changes. -/
  | inUse (tree : FileTree)
  | failed (cause : Cause)

/-- Tries to reserve an id. The segment is looked for again once the marker is there, since it may
have been made in between; then only the marker is taken back. -/
def attempt (channels : Channels) (owner id : Nat) (tree : FileTree) : Attempt :=
  if tree.hasNode (channels.segment id) then .inUse tree
  else
    match tree.createFile (channels.marker id) (markerText owner).toUTF8 with
    | .ok marked =>
      if marked.hasNode (channels.segment id) then
        .inUse ((removeIfThere marked (channels.marker id)).toOption.getD marked)
      else .reserved marked
    | .error .present => .inUse tree
    | .error cause => .failed cause

/-- Looks at a number of candidates, of which those before are known to be in use. -/
def reserveFrom (channels : Channels) (owner : Nat) (candidates : Nat → Nat) (tree : FileTree)
    (done : Nat) : Nat → Except ChannelFault (Slot × FileTree)
  | 0 => .error (.exhausted channels.low channels.high done)
  | left + 1 =>
    let id := candidates done
    match channels.attempt owner id tree with
    | .reserved tree => .ok (channels.slot id, tree)
    | .inUse tree => channels.reserveFrom owner candidates tree (done + 1) left
    | .failed cause => .error (.unmarkable (channels.marker id) cause)

/-- Reserves the first candidate that is not in use, among as many as are looked at. Without ids to
choose from none is. -/
def reserve (channels : Channels) (owner : Nat) (candidates : Nat → Nat) (tree : FileTree) :
    Except ChannelFault (Slot × FileTree) :=
  if channels.high < channels.low then
    .error (.exhausted channels.low channels.high 0)
  else channels.reserveFrom owner candidates tree 0 channels.attempts

/-- All ids in turn, over and over. -/
def inTurn (channels : Channels) (index : Nat) : Nat :=
  channels.low + index % (channels.high + 1 - channels.low)

end Channels

namespace Slot

/-- Gives up a slot: removes the segment and then the marker. -/
def release (slot : Slot) (tree : FileTree) : FileTree × Except Cause Unit :=
  match Channels.removeIfThere tree slot.segment with
  | .error cause => (tree, .error cause)
  | .ok tree =>
    match Channels.removeIfThere tree slot.marker with
    | .error cause => (tree, .error cause)
    | .ok tree => (tree, .ok ())

/-- Gives up a slot without regard to what cannot be removed. -/
def abandon (slot : Slot) (tree : FileTree) : FileTree :=
  let tree := (Channels.removeIfThere tree slot.segment).toOption.getD tree
  (Channels.removeIfThere tree slot.marker).toOption.getD tree

end Slot

end ProfilingSession
