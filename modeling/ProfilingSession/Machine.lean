import ProfilingSession.Session.Host
import ProfilingSession.Shell.Execution

/-!
# Machines

A machine is a host on which sessions can be tried without any other system: it has files, a
clock, and processes that are scripts of the shell. The process that is ready first takes the next
step, and the clock shows how long steps and waits take. Everything that happens on a machine is
determined by how it starts.
-/

namespace ProfilingSession

open FileTree (Cause Path)
open Shell (Bytes Process Program Start Surroundings Turn World)

/-- A system with processes. -/
structure Machine where
  /-- The files, and what is open. -/
  world : World
  /-- The time in nanoseconds. -/
  clock : Nat
  environment : List (String × String)
  /-- The processes that have not ended. -/
  processes : List Process
  /-- How processes ended, in the order in which they did. -/
  ended : List (Nat × Exit)
  /-- The numbers of the processes of a session. -/
  producer : Option Nat
  consumer : Option Nat
  nextPid : Nat
  /-- The processes that take no steps until they are told to go on. -/
  stopped : List Nat

namespace Machine

def ownPid : Nat := 999

/-- A machine on which nothing runs yet. -/
def boot (files : FileTree) (environment : List (String × String)) : Machine :=
  ⟨.ofFiles files, 0, environment, [], [], none, none, ownPid + 1, []⟩

def files (machine : Machine) : FileTree := machine.world.files

def withFiles (files : FileTree) (machine : Machine) : Machine :=
  { machine with world := { machine.world with files := files } }

/-- The time it takes to notice that a wait is over. -/
def noticeTime : Nat := 1000

def pid? (role : Role) (machine : Machine) : Option Nat :=
  match role with
  | .producer => machine.producer
  | .consumer => machine.consumer

def isAlive (machine : Machine) (pid : Nat) : Bool :=
  machine.processes.any fun process => process.pid == pid

def modify (pid : Nat) (change : Process → Process) (machine : Machine) : Machine :=
  { machine with
    processes := machine.processes.map fun process =>
      if process.pid = pid then change process else process }

/-- A process that waits for another one which has ended at a time. -/
def woken (pid clock : Nat) (process : Process) : Process :=
  match process.task with
  | .await pids _ =>
    if pids.contains pid then { process with readyAt := max process.readyAt clock } else process
  | _ => process

def finish (pid : Nat) (exit : Exit) (machine : Machine) : Machine :=
  if machine.isAlive pid then
    { machine with
      processes := (machine.processes.filter fun process => process.pid != pid).map
        (woken pid machine.clock)
      ended := machine.ended ++ [(pid, exit)] }
  else machine

def signal (machine : Machine) (sent : Nat × Nat) : Machine :=
  let (pid, signal) := sent
  match Shell.Signal.reaction signal with
  | .ignored => machine
  | .stopped => { machine with stopped := pid :: machine.stopped }
  | .continued =>
    { machine with stopped := machine.stopped.filter (· ≠ pid) }.modify pid fun process =>
      { process with readyAt := max process.readyAt machine.clock }
  | .ended => machine.finish pid (.ofSignal signal)

def next? (machine : Machine) : Option Process :=
  machine.processes.foldl (fun best process =>
    if machine.stopped.contains process.pid || process.isBlocked machine.isAlive then best
    else
      match best with
      | some other => if process.readyAt < other.readyAt then some process else some other
      | none => some process) none

def turn (machine : Machine) (process : Process) : Machine :=
  let exit? (pid : Nat) : Option Exit :=
    (machine.ended.find? fun entry => entry.1 == pid).map Prod.snd
  let isAlive (pid : Nat) : Bool := pid = 1 || pid = ownPid || machine.isAlive pid
  let turn := process.step ⟨isAlive, exit?, machine.nextPid⟩ machine.world
  let readyAt := process.readyAt + turn.cost
  let startedAt := process.readyAt + min turn.cost Shell.programTime
  let started := turn.spawned.toList.map fun job => { job with readyAt := startedAt }
  let working := machine.files.working
  let machine := machine.modify process.pid fun _ =>
    { turn.process with pid := process.pid, readyAt := readyAt }
  let machine :=
    { machine with
      world := { turn.world with files := { turn.world.files with working := working } }
      clock := max machine.clock process.readyAt
      processes := machine.processes ++ started
      nextPid := machine.nextPid + started.length }
  let machine := turn.signals.foldl signal machine
  match turn.ending with
  | some exit => machine.finish process.pid exit
  | none => machine

/-- Lets processes take steps up to a time, or until something is there; the number of steps is
limited. -/
def runWithin {α : Type} (deadline : Nat) (look : Machine → Option α) :
    Nat → Machine → Option α × Machine
  | 0, machine => (look machine, { machine with clock := max machine.clock deadline })
  | steps + 1, machine =>
    match look machine with
    | some what => (some what, machine)
    | none =>
      match machine.next? with
      | some process =>
        if process.readyAt ≤ deadline then
          runWithin deadline look steps (machine.turn process)
        else (none, { machine with clock := max machine.clock deadline })
      | none => (none, { machine with clock := max machine.clock deadline })

/-- Waits for something. Every step takes at least the time of a decision, so that the number of
steps is no limit unless processes start others. -/
def await {α : Type} (limit : Duration) (look : Machine → Option α) (machine : Machine) :
    Wake α × Machine :=
  let deadline := machine.clock + limit.nanoseconds
  let steps := (limit.nanoseconds / Shell.decisionTime + 2) * (machine.processes.length + 4)
  match machine.runWithin deadline look steps with
  | (some what, machine) => (.came what, { machine with clock := machine.clock + noticeTime })
  | (none, machine) => (.elapsed, { machine with clock := machine.clock + noticeTime })

/-- How the process of a role ended, if it did. -/
def exit? (role : Role) (machine : Machine) : Option Exit := do
  let pid ← machine.pid? role
  let entry ← machine.ended.find? fun entry => entry.1 == pid
  return entry.2

def firstExit? (machine : Machine) : Option (Role × Exit) :=
  machine.ended.findSome? fun entry =>
    if machine.producer = some entry.1 then some (.producer, entry.2)
    else if machine.consumer = some entry.1 then some (.consumer, entry.2)
    else none

def environmentOf (machine : Machine) (launch : Launch) : List (String × Bytes) :=
  let environment :=
    (Launch.channelVariable, toString launch.channel) ::
      machine.environment.filter fun entry => entry.1 != Launch.channelVariable
  environment.map fun entry => (entry.1, Bytes.ofText entry.2)

def processOf (machine : Machine) (launch : Launch) : Process × World :=
  let log : Shell.Stream :=
    match machine.files.locate launch.log with
    | .ok location => .file location 0 ⟨false, true, false⟩
    | .error _ => .nothing
  let (input, world) := machine.world.begin .nothing
  let (output, world) := world.begin log
  let program := Bytes.ofText launch.program
  let start : Start := ⟨program, [], none, false⟩
  let context := start.context machine.nextPid (machine.environmentOf launch)
    [(0, input), (1, output), (2, output)] machine.files.working
  let fields := "exec" :: program :: launch.arguments.map Bytes.ofText
  let command : Shell.Command := .simple 0 [] (fields.map Shell.Word.literal) []
  (⟨machine.nextPid, context, .execute command, [], [], machine.clock⟩, world)

def launch (machine : Machine) (launch : Launch) : Except Cause Unit × Machine :=
  if launch.arguments.any fun argument => argument.toList.contains '\x00' then
    (.error .nulInCommand, machine)
  else
    match Program.find machine.files launch.program with
    | .error cause => (.error cause, machine)
    | .ok _ =>
      let (process, world) := machine.processOf launch
      let machine :=
        { machine with
          world := world
          processes := machine.processes ++ [process]
          nextPid := machine.nextPid + 1 }
      (.ok (),
        match launch.role with
        | .producer => { machine with producer := some process.pid }
        | .consumer => { machine with consumer := some process.pid })

/-- Ends the process of a role by force. -/
def kill (role : Role) (machine : Machine) : Machine :=
  (machine.pid? role).elim machine fun pid => machine.finish pid (.ofSignal 9)

/-- How a process that was there ended. -/
def reap (role : Role) (machine : Machine) : Except Cause Exit × Machine :=
  match machine.exit? role with
  | some exit => (.ok exit, machine)
  | none => (.error .noChild, machine)

def host : Host Machine where
  files := Machine.files
  withFiles := withFiles
  launch request machine := machine.launch request
  awaitConsumer limit machine := machine.await limit (exit? .consumer)
  awaitEither limit machine := machine.await limit firstExit?
  poll role machine := (.ok (machine.exit? role), machine)
  kill := kill
  reap := reap
  clock machine := ⟨machine.clock⟩

end Machine

end ProfilingSession
