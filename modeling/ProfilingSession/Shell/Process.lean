import ProfilingSession.Session.Exit
import ProfilingSession.Shell.Context
import ProfilingSession.Shell.Stream

/-!
# Processes

A process runs commands step by step. Its task says what it does next, and its stack what is done
after that; each step is one command or one decision, and tells how long it took. Nothing is
executed inside of a step of another process, so that steps of processes can follow each other in
any order.

The output of a script within a word is got by executing the script first, with a frame on the stack
that goes on with the command after all. A script that is started by a path is a process of its own,
and the process that started it waits.

A `Turn` is a step in the making: the functions on it say what the step does.
-/

namespace ProfilingSession.Shell

open FileTree (Cause)

inductive Task where
  | execute (command : Command)
  /-- Waits until processes have ended. The exit code is that of the last one, or else zero. -/
  | await (pids : List Nat) (tells : Bool)
  | resume

abbrev Before := List (String × Option Variable)

inductive Frame where
  | next (command : Command)
  | ifSuccess (command : Command)
  | ifFailure (command : Command)
  | negate
  | branch (yes no : Command)
  /-- After the condition of a loop; the body had an exit code the last time. -/
  | loopCondition (whileTrue : Bool) (condition body : Command) (last : Nat)
  | loopBody (whileTrue : Bool) (condition body : Command)
  | eachWord (name : String) (words : List Bytes) (body : Command)
  /-- The end of redirections. -/
  | restore (descriptors : Descriptors)
  /-- The end of assignments for one command. -/
  | revert (before : Before)
  /-- The end of a script within a word of a command, with the stream that takes its output. -/
  | capture (outer : Context) (stream : Nat) (command : Command)
  /-- The end of what the process has become. -/
  | finish

structure Process where
  pid : Nat
  context : Context
  task : Task
  stack : List Frame
  /-- The processes it started. -/
  children : List Nat
  /-- When it goes on, in nanoseconds. -/
  readyAt : Nat

/-- What a process sees of others. -/
structure Surroundings where
  isAlive : Nat → Bool
  /-- How a process ended. -/
  exit? : Nat → Option Exit
  /-- The number that the next process gets. -/
  nextPid : Nat

structure Turn where
  process : Process
  world : World
  /-- How long the step took, in nanoseconds. -/
  cost : Nat
  ending : Option Exit
  /-- Signals that were sent, with the processes they were sent to. -/
  signals : List (Nat × Nat)
  spawned : Option Process

def decisionTime : Nat := 1000

/-- The time of a command that the shell has itself. -/
def commandTime : Nat := 50000

/-- The time it takes to start a program. -/
def programTime : Nat := 1000000

def Process.isBlocked (isAlive : Nat → Bool) (process : Process) : Bool :=
  match process.task with
  | .await pids _ => pids.any isAlive
  | _ => false

namespace Frame

def isCapture : Frame → Bool
  | .capture .. => true
  | _ => false

/-- Whether a frame looks at the exit code of what comes before it. -/
def isCondition : Frame → Bool
  | .ifSuccess _ | .ifFailure _ | .negate | .branch _ _ | .loopCondition .. => true
  | _ => false

end Frame

namespace Turn

/-- A step of a process that took some time and changed nothing yet. -/
def begin (process : Process) (world : World) (cost : Nat) : Turn :=
  ⟨process, { world with files := { world.files with working := process.context.working } }, cost,
    none, [], none⟩

def context (turn : Turn) : Context := turn.process.context

def files (turn : Turn) : FileTree := turn.world.files

def withFiles (files : FileTree) (turn : Turn) : Turn :=
  { turn with world := { turn.world with files := files } }

def mapContext (change : Context → Context) (turn : Turn) : Turn :=
  { turn with process := { turn.process with context := change turn.process.context } }

def withTask (task : Task) (turn : Turn) : Turn :=
  { turn with process := { turn.process with task := task } }

/-- Next the process executes a command. -/
def execute (command : Command) (turn : Turn) : Turn :=
  turn.withTask (.execute command)

/-- Next the process goes on with its stack. -/
def resume (turn : Turn) : Turn :=
  turn.withTask .resume

def withStack (stack : List Frame) (turn : Turn) : Turn :=
  { turn with process := { turn.process with stack := stack } }

def push (frame : Frame) (turn : Turn) : Turn :=
  turn.withStack (frame :: turn.process.stack)

/-- The last command had an exit code. -/
def withStatus (status : Nat) (turn : Turn) : Turn :=
  turn.mapContext fun context => { context with status := status }

def withDescriptors (descriptors : Descriptors) (turn : Turn) : Turn :=
  turn.mapContext fun context => { context with descriptors := descriptors }

/-! ## Reading and writing -/

def begins (stream : Stream) (turn : Turn) : Nat × Turn :=
  let (number, world) := turn.world.begin stream
  (number, { turn with world := world })

/-- Writes to a descriptor; nothing can be written to any. -/
def write (descriptor : Nat) (text : Bytes) (turn : Turn) : Except Cause Turn :=
  if text = "" then .ok turn
  else
    match turn.context.descriptors.stream? descriptor with
    | none => .error .badDescriptor
    | some stream => (turn.world.write stream text).map fun world => { turn with world := world }

/-- Writes to a descriptor if that can be done. -/
def tell (descriptor : Nat) (text : Bytes) (turn : Turn) : Turn :=
  (turn.write descriptor text).toOption.getD turn

/-- All that is left of the input. -/
def input (turn : Turn) : Except Cause Bytes :=
  match turn.context.descriptors.stream? 0 with
  | none => .error .badDescriptor
  | some stream => turn.world.left stream

/-- Takes so many bytes of the input. -/
def takeInput (count : Nat) (turn : Turn) : Turn :=
  match turn.context.descriptors.stream? 0 with
  | some stream => { turn with world := turn.world.skip stream count }
  | none => turn

/-- Says on a line of a script what went wrong. -/
def complain (line : Nat) (message : Bytes) (turn : Turn) : Turn :=
  turn.tell 2 (turn.context.name ++ ": " ++ toString line ++ ": " ++ message ++ "\n")

/-! ## Going on -/

/-- Ends the shell, or the script within a word if it is in one. -/
def exit (status : Nat) (turn : Turn) : Turn :=
  let status := status % 256
  match turn.process.stack.dropWhile fun frame => !frame.isCapture with
  | [] => { turn with ending := some (.ofCode status) }
  | stack => ((turn.withStack stack).withStatus status).resume

def stopsOnFailure (turn : Turn) : Bool :=
  let inner := turn.process.stack.takeWhile fun frame => !frame.isCapture
  turn.context.stopsOnFailure && !inner.any Frame.isCondition

/-- A command had an exit code; if it failed the script may be over. -/
def conclude (status : Nat) (turn : Turn) : Turn :=
  if status ≠ 0 && turn.stopsOnFailure then turn.exit status else (turn.withStatus status).resume

/-- A command failed in a way that ends the script. -/
def stop (line : Nat) (message : Bytes) (turn : Turn) : Turn :=
  (turn.complain line message).exit 2

/-- Executes a script whose output a command needs, to go on with that. -/
def capture (line : Nat) (script : Bytes) (command : Command) (turn : Turn) : Turn :=
  let (stream, turn) := turn.begins (.pipe "")
  let descriptors := turn.context.descriptors.lead 1 stream
  ((turn.push (.capture turn.context stream command)).mapContext fun context =>
    { context with descriptors := descriptors, substituted := none }).execute (.read line script)

/-- Starts a process; the time when it is ready is set by whoever runs it. -/
def spawn (surroundings : Surroundings) (context : Context) (task : Task) (turn : Turn) : Turn :=
  let child : Process := ⟨surroundings.nextPid, context, task, [], [], 0⟩
  { turn with
    process := { turn.process with children := child.pid :: turn.process.children }
    spawned := some child }

def await (pids : List Nat) (tells : Bool) (turn : Turn) : Turn :=
  turn.withTask (.await pids tells)

/-- Waits no more: tells how processes ended. -/
def endAwait (surroundings : Surroundings) (pids : List Nat) (tells : Bool) (turn : Turn) : Turn :=
  if !tells then turn.conclude 0
  else
    match pids.getLast?.filter turn.process.children.contains |>.bind surroundings.exit? with
    | some ⟨_, some signal⟩ => turn.conclude (128 + signal.toNat)
    | some ⟨code, none⟩ => turn.conclude (code.getD 0).toNat
    | none => turn.conclude 127

end Turn

end ProfilingSession.Shell
