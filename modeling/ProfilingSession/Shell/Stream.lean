import ProfilingSession.FileTree.Change
import ProfilingSession.Shell.Bytes
import Std.Data.TreeMap

/-!
# Streams

A stream is what is behind a descriptor: bytes are read from it and written to it. Streams are
shared by processes, and so are the files; both together are a `World`. Streams are known by numbers
that are not used again.

A stream of a file remembers where it is in the file, and that place moves on with what is read and
written. What is written behind the end of a file leaves zero bytes in between.
-/

namespace ProfilingSession.Shell

open FileTree (Cause Location Path)

structure Access where
  reads : Bool
  writes : Bool
  /-- Whether everything is written to the end of the file. -/
  appends : Bool
  deriving DecidableEq, Repr

/-- What is behind a descriptor. -/
inductive Stream where
  /-- Takes everything and has nothing. -/
  | nothing
  | file (location : Location) (offset : Nat) (access : Access)
  /-- Bytes that wait to be read. -/
  | pipe (left : Bytes)
  deriving DecidableEq, Repr

structure World where
  files : FileTree
  streams : Std.TreeMap Nat Stream
  /-- The number of the next stream. -/
  nextStream : Nat

namespace World

/-- A world with some files and without streams. -/
def ofFiles (files : FileTree) : World :=
  ⟨files, ∅, 0⟩

def begin (stream : Stream) (world : World) : Nat × World :=
  (world.nextStream,
    { world with
      streams := world.streams.insert world.nextStream stream
      nextStream := world.nextStream + 1 })

def stream? (world : World) (number : Nat) : Option Stream :=
  world.streams[number]?

def withStream (world : World) (number : Nat) (stream : Stream) : World :=
  { world with streams := world.streams.insert number stream }

/-- The bytes of the file at a location. A file that is gone has none. -/
def contentAt (world : World) (location : Location) : Except Cause ByteArray :=
  match world.files.root.get? location with
  | some (.file _ content) => .ok content
  | some (.directory ..) => .error .isDirectory
  | _ => .ok .empty

def left (world : World) (number : Nat) : Except Cause Bytes :=
  match world.stream? number with
  | none => .error .badDescriptor
  | some .nothing => .ok ""
  | some (.pipe left) => .ok left
  | some (.file location offset access) => do
    if !access.reads then .error .badDescriptor
    let content ← world.contentAt location
    return Bytes.ofArray (content.extract offset content.size)

/-- The world after so many bytes were read from a stream. -/
def skip (number count : Nat) (world : World) : World :=
  match world.stream? number with
  | some (.pipe left) => world.withStream number (.pipe (String.ofList (left.toList.drop count)))
  | some (.file location offset access) =>
    world.withStream number (.file location (offset + count) access)
  | _ => world

/-- Bytes with others put over them from a place on. -/
def overwritten (content written : ByteArray) (offset : Nat) : ByteArray :=
  let gap : ByteArray := ⟨(List.replicate (offset - content.size) (0 : UInt8)).toArray⟩
  content.extract 0 offset ++ gap ++ written ++
    content.extract (offset + written.size) content.size

/-- The world after bytes were written to a stream. A file that is gone takes them with it. -/
def write (number : Nat) (bytes : Bytes) (world : World) : Except Cause World :=
  match world.stream? number with
  | none => .error .badDescriptor
  | some .nothing => .ok world
  | some (.pipe left) => .ok (world.withStream number (.pipe (left ++ bytes)))
  | some (.file location offset access) =>
    if !access.writes then .error .badDescriptor
    else
      match world.files.root.get? location with
      | some (.file mode content) =>
        let written := Bytes.toArray bytes
        let offset := if access.appends then content.size else offset
        let node := FileTree.Node.file mode (overwritten content written offset)
        let root := world.files.root.set (some node) location
        let world := { world with files := { world.files with root := root } }
        .ok (world.withStream number (.file location (offset + written.size) access))
      | _ => .ok world

end World

end ProfilingSession.Shell
