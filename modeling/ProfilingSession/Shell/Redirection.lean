import ProfilingSession.Shell.Process
import ProfilingSession.Shell.Utility.Basic

/-!
# Redirections

A redirection puts another stream behind a descriptor: a file that is read, made anew or written on
at its end, or the stream of another descriptor. Redirections of a command are made one after the
other. One that cannot be made is told about with the descriptors that the earlier ones led to.
-/

namespace ProfilingSession.Shell

open FileTree (Cause Node)

structure Opening where
  descriptor : Nat
  direction : Direction
  target : Bytes

/-- The words for a cause after the name of a file. -/
def openText (missing : Bytes) : Cause → Bytes
  | .system 2 | .system 20 => missing
  | cause => Utility.causeText cause

/-- Descriptors in the making. -/
structure Redirecting where
  descriptors : Descriptors
  world : World

namespace Redirecting

def lead (descriptor : Nat) (stream : Stream) (state : Redirecting) : Redirecting :=
  let (number, world) := state.world.begin stream
  ⟨state.descriptors.lead descriptor number, world⟩

def leadToPath (descriptor : Nat) (path : Bytes) (access : Access) (state : Redirecting) :
    Redirecting :=
  match state.world.files.locate (Bytes.toText path) with
  | .ok location =>
    if location = FileTree.nullDevice then state.lead descriptor .nothing
    else state.lead descriptor (.file location 0 access)
  | .error _ => state.lead descriptor .nothing

/-- The file at a path for writing, made anew if that is wanted. -/
def prepare (path : Bytes) (anew : Bool) (state : Redirecting) : Except Cause Redirecting :=
  let files := state.world.files
  let path := Bytes.toText path
  if files.isNullDevice path then .ok state
  else if anew || !files.hasFile path then
    (files.writeBytes path .empty).map fun files =>
      { state with world := { state.world with files := files } }
  else if files.permits Node.mayWriteBit path then .ok state
  else .error .denied

/-- Makes a redirection, or says why it cannot be made. -/
def make (state : Redirecting) (opening : Opening) : Except (Bytes × Redirecting) Redirecting :=
  let path := opening.target
  let failed (message : Bytes) : Except (Bytes × Redirecting) Redirecting := .error (message, state)
  let written (anew : Bool) : Except (Bytes × Redirecting) Redirecting :=
    match state.prepare path anew with
    | .ok state => .ok (state.leadToPath opening.descriptor path ⟨false, true, !anew⟩)
    | .error cause =>
      failed ("cannot create " ++ path ++ ": " ++ openText "Directory nonexistent" cause)
  match opening.direction with
  | .input =>
    let readable := do
      let node ← state.world.files.node (Bytes.toText path)
      if node.permits Node.mayReadBit then .ok () else .error Cause.denied
    match readable with
    | .ok () => .ok (state.leadToPath opening.descriptor path ⟨true, false, false⟩)
    | .error cause => failed ("cannot open " ++ path ++ ": " ++ openText "No such file" cause)
  | .output => written true
  | .append => written false
  | .same =>
    if path = "-" then
      .ok { state with descriptors := state.descriptors.close opening.descriptor }
    else
      match (Bytes.natural? path).bind state.descriptors.stream? with
      | some stream =>
        .ok { state with descriptors := state.descriptors.lead opening.descriptor stream }
      | none => failed (path ++ ": Bad file descriptor")

end Redirecting

/-- Makes redirections, or complains about the one that cannot be made. -/
def Turn.redirecting (line : Nat) (redirections : List Redirection) (failed goOn : Turn → Turn)
    (turn : Turn) : Turn :=
  let openings := redirections.map fun redirection =>
    (⟨redirection.descriptor, redirection.direction, turn.context.textOf redirection.target⟩ :
      Opening)
  let become (state : Redirecting) : Turn :=
    { turn with world := state.world }.withDescriptors state.descriptors
  match openings.foldlM Redirecting.make ⟨turn.context.descriptors, turn.world⟩ with
  | .ok state => goOn (become state)
  | .error (message, state) =>
    failed (((become state).complain line message).withDescriptors turn.context.descriptors)

end ProfilingSession.Shell
