import ProfilingSession.Executable
import ProfilingSession.Session.Plan
import ProfilingSession.Session.Status

/-!
# Checks before a session

Before a channel is reserved the plan is checked: the two programs have to be there and to be
executable files, the producer no object file, the number of threads one that the analysis can use,
and the directory of the channels there. `Preflight.check` reports the first thing that is wrong.
A producer that is no machine code, or has no symbols, is worth a warning only.
-/

namespace ProfilingSession.Preflight

open FileTree (Cause Path Node)

inductive Fault where
  | missing (role : Role) (program : Path)
  | notFile (role : Role) (program : Path)
  | notExecutable (program : Path)
  | unreadable (program : Path) (cause : Cause)
  | objectFile (program : Path)
  | noThread
  | oneThreadOnly (profiler : Profiler) (threads : Nat)
  | unevenThreads (threads : Nat)
  | noDirectory (directory : Path)
  | closedDirectory (directory : Path)
  deriving DecidableEq, Repr

/-- The words for a fault: what is wrong and, in most cases, what to do about it. -/
def Fault.message : Fault → String
  | .missing role program =>
    role.name ++ " executable not found: " ++ program ++
      "\n\nMake sure the path is correct and the binary has been built."
  | .notFile role program =>
    "Not a file: " ++ program ++ "\n\nThe " ++ role.name ++
      " must be an executable file, not a directory."
  | .notExecutable program =>
    "Permission denied: " ++ program ++ " is not executable.\n\nFix with: chmod +x " ++ program
  | .unreadable program _ => "Failed to read binary: " ++ program
  | .objectFile program =>
    program ++ " is an object file, not an executable.\n\n" ++
      "Link the instrumented object before running a session."
  | .noThread => "--threads must be at least 1"
  | .oneThreadOnly profiler threads =>
    "Module " ++ profiler.name ++ " only supports 1 thread (got --threads " ++ toString threads ++
      ")."
  | .unevenThreads threads =>
    "--threads must be a power of two (got " ++ toString threads ++ ")"
  | .noDirectory directory =>
    "Shared-memory namespace " ++ directory ++ " does not exist.\n\n" ++
      "Is /dev/shm mounted? Override with --channel-dir."
  | .closedDirectory directory =>
    "Permission denied: cannot create channel markers in " ++ directory

/-- The messages of a fault and of what caused it, outermost first. -/
def Fault.chain (fault : Fault) : List String :=
  match fault with
  | .unreadable _ cause => [fault.message, cause.message]
  | _ => [fault.message]

/-- A program has to be an executable file. -/
def checkProgram (role : Role) (program : Path) (tree : FileTree) : Except Fault Unit :=
  if !tree.hasNode program then .error (.missing role program)
  else if !tree.hasFile program then .error (.notFile role program)
  else if !tree.permits Node.mayRunBit program then .error (.notExecutable program)
  else .ok ()

inductive Warning where
  | notNative
  | noSymbols
  deriving DecidableEq, Repr

def Warning.message : Warning → String
  | .notNative => "warning: producer is not a native executable, launching it anyway"
  | .noSymbols =>
    "warning: producer binary stripped, consumer reports will lack symbol names"

/-- What the bytes of a producer say. Wrapper scripts are fine; how events arrive does not matter to
the consumer. -/
def inspect (program : Path) (bytes : ByteArray) : Except Fault (Option Warning) :=
  match Executable.read? bytes with
  | none => .ok (some .notNative)
  | some summary =>
    if summary.kind = .other then .error (.objectFile program)
    else .ok (if summary.symbols = 0 then some .noSymbols else none)

/-- A producer must not be an object file. -/
def checkImage (program : Path) (tree : FileTree) : Except Fault (Option Warning) := do
  inspect program (← (tree.bytes program).mapError (.unreadable program))

def isPowerOfTwo (n : Nat) : Bool :=
  0 < n && n &&& (n - 1) == 0

/-- The number of threads has to be a power of two, since the consumer shares addresses among them
by their lowest bits; some analyses cannot be shared. -/
def checkThreads (profiler : Profiler) (threads : Nat) : Except Fault Unit :=
  if threads = 0 then .error .noThread
  else if 1 < threads && !profiler.sharesThreads then .error (.oneThreadOnly profiler threads)
  else if !isPowerOfTwo threads then .error (.unevenThreads threads)
  else .ok ()

/-- The directory of the channels has to be open for markers. -/
def checkDirectory (directory : Path) (tree : FileTree) : Except Fault Unit :=
  if !tree.hasDirectory directory then .error (.noDirectory directory)
  else if !tree.permits Node.mayWriteBit directory then .error (.closedDirectory directory)
  else .ok ()

/-- What is checked before the producer is looked into. -/
def checkPrograms (plan : Plan) (tree : FileTree) : Except Fault Unit := do
  checkProgram .consumer plan.consumer tree
  checkProgram .producer plan.producer tree

/-- What is checked after the producer was looked into. -/
def checkRest (plan : Plan) (tree : FileTree) : Except Fault Unit := do
  checkThreads plan.profiler plan.threads
  checkDirectory plan.channels.directory tree

/-- Checks a plan; what is printed on the way are warnings, unless they are not wanted. -/
def check (plan : Plan) (quiet : Bool) (tree : FileTree) : Output × Except Fault Unit :=
  match checkPrograms plan tree with
  | .error fault => (.empty, .error fault)
  | .ok () =>
    match checkImage plan.producer tree with
    | .error fault => (.empty, .error fault)
    | .ok none => (.empty, checkRest plan tree)
    | .ok (some warning) =>
      (if quiet then .empty else .errorLine warning.message, checkRest plan tree)

end ProfilingSession.Preflight
