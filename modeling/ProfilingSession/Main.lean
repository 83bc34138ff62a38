import ProfilingSession.CommandLine.Execution
import ProfilingSession.CommandLine.Explanation
import ProfilingSession.CommandLine.Footprint
import ProfilingSession.FileTree.Difference
import ProfilingSession.FileTree.Sketch
import ProfilingSession.Machine

/-!
# The program

Reads the arguments, the environment and the files that a command is about, executes it, prints
what it says and writes the files that it changed. Programs that a session launches are run on a
machine of the library, as scripts of the shell.
-/

open ProfilingSession
open ProfilingSession.CommandLine

/-- What is at a path, if there is something. -/
def lookAt (path : FileTree.Path) : IO (Option FileTree.Node) := do
  try
    return some (.file 0o755 (← IO.FS.readBinFile path))
  catch error =>
    match error with
    | .inappropriateType .. => return some .empty
    | _ => return none

def readTree (paths : List FileTree.Path) : IO FileTree := do
  let mut found := []
  for path in paths do
    if let some node ← lookAt path then
      found := (path, node) :: found
  return FileTree.sketch (FileTree.Path.steps (toString (← IO.currentDir))) found

def writeChanges (before after : FileTree) : IO Unit := do
  let difference := FileTree.difference before.root after.root
  for (path, node) in difference.changed do
    match node with
    | .directory .. => IO.FS.createDirAll ("/" ++ path)
    | .file _ content => IO.FS.writeBinFile ("/" ++ path) content
    | .link _ => pure ()
  for path in difference.removed do
    IO.FS.removeFile ("/" ++ path)

def printOutput (output : Output) : IO Unit := do
  IO.print output.out
  IO.eprint output.err

/-- The variables of the environment that commands look at. -/
def readEnvironment : IO Environment := do
  let mut environment := []
  for name in ["NO_COLOR", "PROFILEARGS", "SLAMP_INSTALL_DIR"] do
    if let some value ← IO.getEnv name then
      environment := (name, value) :: environment
  return environment

def refuse (fault : UsageFault) : IO UInt32 := do
  IO.eprintln fault.message
  return fault.exitCode.toUInt32

def generateAll (words : List String) : IO UInt32 := do
  match HeaderSetLine.parse words with
  | .error fault => refuse fault
  | .ok request =>
    let tree ← readTree request.paths
    let progress := HeaderSet.generate request tree
    writeChanges tree progress.tree
    printOutput (headerSetOutput progress)
    return (headerSetExitCode progress).toUInt32

/-- Runs a session or generates a header. -/
def runCommand (words : List String) : IO UInt32 := do
  let environment ← readEnvironment
  match Invocation.parse environment words with
  | .error fault => refuse fault
  | .ok invocation =>
    let tree ← readTree invocation.command.paths
    let setting : Setting := ⟨environment.palette, invocation.quiet, 1, Channels.inTurn⟩
    let execution :=
      Execution.execute Machine.host setting invocation.command (.boot tree environment)
    writeChanges tree execution.system.files
    printOutput (execution.output setting.palette)
    return execution.exitCode.toUInt32

def main (words : List String) : IO UInt32 :=
  if words.head? = some "gen-frontend" then generateAll words else runCommand words
