import ProfilingSession.FileTree.Change
import ProfilingSession.Session.Host
import ProfilingSession.Session.Report
import ProfilingSession.Session.Status

/-!
# Supervision

A session reserves a channel, launches the consumer, waits until it is ready, launches the
producer, and waits until both have ended or it is clear that they will not end as they should.
`Supervision.run` does this on a host; whatever happens, what was launched is ended and its end
is known before the channel is given up, and that is the last thing done.

The producer has to end first. If the consumer ends while the producer is there, events are lost,
which is an order violation however either of them ends. Once the producer has ended only the
grace period counts for the consumer, and not the time of the whole session any more.

`Supervision` is what is known during a session. Its journal tells what was done, in order, and
its known ends are looked at before the host is asked, so that no process is waited for twice.
-/

namespace ProfilingSession

open FileTree (Cause)

/-- Something that was done in a session. -/
inductive Action where
  | entered (phase : Phase)
  | launched (launch : Launch)
  /-- The segment was seen, or the delay was over. -/
  | foundReady
  | killed (role : Role)
  /-- The end of a process became known. -/
  | ended (role : Role) (exit : Exit)
  /-- The channel was given up, as far as possible. -/
  | released (slot : Slot)
  deriving DecidableEq, Repr

/-- What is known during a session. -/
structure Supervision (σ : Type) where
  system : σ
  /-- The end of the producer, if it is known. -/
  producer : Option Exit
  /-- The end of the consumer, if it is known. -/
  consumer : Option Exit
  journal : List Action

namespace Supervision

variable {σ : Type}

/-- How often it is looked whether the segment is there. -/
def lookInterval : Duration := .ofMilliseconds 10

def start (system : σ) : Supervision σ :=
  ⟨system, none, none, []⟩

def note (action : Action) (state : Supervision σ) : Supervision σ :=
  { state with journal := state.journal ++ [action] }

def known (role : Role) (state : Supervision σ) : Option Exit :=
  match role with
  | .producer => state.producer
  | .consumer => state.consumer

def learn (role : Role) (exit : Exit) (state : Supervision σ) : Supervision σ :=
  let state := state.note (.ended role exit)
  match role with
  | .producer => { state with producer := some exit }
  | .consumer => { state with consumer := some exit }

/-- Makes the log of a process anew and launches it. -/
def launch (host : Host σ) (launch : Launch) (state : Supervision σ) :
    Except SessionFault Unit × Supervision σ :=
  match (host.files state.system).writeText launch.log "" with
  | .error cause => (.error (.unlaunched launch.role launch.program cause), state)
  | .ok files =>
    match host.launch launch (host.withFiles files state.system) with
    | (.error cause, system) =>
      (.error (.unlaunched launch.role launch.program cause), { state with system := system })
    | (.ok (), system) => (.ok (), { state with system := system }.note (.launched launch))

def awaitConsumer (host : Host σ) (limit : Duration) (state : Supervision σ) :
    Wake Exit × Supervision σ :=
  match host.awaitConsumer limit state.system with
  | (.came exit, system) => (.came exit, { state with system := system }.learn .consumer exit)
  | (wake, system) => (wake, { state with system := system })

def awaitEither (host : Host σ) (limit : Duration) (state : Supervision σ) :
    Wake (Role × Exit) × Supervision σ :=
  match host.awaitEither limit state.system with
  | (.came (role, exit), system) =>
    (.came (role, exit), { state with system := system }.learn role exit)
  | (wake, system) => (wake, { state with system := system })

def poll (host : Host σ) (role : Role) (state : Supervision σ) :
    Except Cause (Option Exit) × Supervision σ :=
  match state.known role with
  | some exit => (.ok (some exit), state)
  | none =>
    match host.poll role state.system with
    | (.ok (some exit), system) =>
      (.ok (some exit), { state with system := system }.learn role exit)
    | (answer, system) => (answer, { state with system := system })

/-- Ends a process by force and waits for its end. -/
def kill (host : Host σ) (role : Role) (state : Supervision σ) : Supervision σ :=
  match host.reap role (host.kill role state.system) with
  | (.ok exit, system) => ({ state with system := system }.note (.killed role)).learn role exit
  | (.error _, system) => { state with system := system }.note (.killed role)

/-- Ends a process by force, unless it has ended. -/
def terminate (host : Host σ) (role : Role) (state : Supervision σ) : Supervision σ :=
  match state.poll host role with
  | (.ok (some _), state) => state
  | (_, state) => state.kill host role

/-- What came of waiting for the consumer to be ready. -/
inductive Startup where
  | ready
  /-- The consumer ended before. -/
  | exited (exit : Exit)
  deriving DecidableEq, Repr

/-- Waits until the segment is there, looking for it a number of times and once more before the
rest of the time. -/
def awaitSegment (host : Host σ) (timeout : Duration) (segment : FileTree.Path)
    (rest : Duration) : Nat → Supervision σ → Except SessionFault Startup × Supervision σ
  | 0, state =>
    if (host.files state.system).hasNode segment then (.ok .ready, state.note .foundReady)
    else
      match state.awaitConsumer host rest with
      | (.came exit, state) => (.ok (.exited exit), state)
      | (.failed cause, state) => (.error (.unwaited cause), state)
      | (.elapsed, state) => (.error (.consumerNotReady timeout), state)
  | looks + 1, state =>
    if (host.files state.system).hasNode segment then (.ok .ready, state.note .foundReady)
    else
      match state.awaitConsumer host lookInterval with
      | (.came exit, state) => (.ok (.exited exit), state)
      | (.failed cause, state) => (.error (.unwaited cause), state)
      | (.elapsed, state) => awaitSegment host timeout segment rest looks state

def awaitReady (host : Host σ) (plan : Plan) (slot : Slot) (state : Supervision σ) :
    Except SessionFault Startup × Supervision σ :=
  match plan.readiness with
  | .published timeout =>
    let interval := lookInterval.nanoseconds
    awaitSegment host timeout slot.segment ⟨timeout.nanoseconds % interval⟩
      (timeout.nanoseconds / interval) state
  | .warmUp delay =>
    match state.awaitConsumer host delay with
    | (.came exit, state) => (.ok (.exited exit), state)
    | (.failed cause, state) => (.error (.unwaited cause), state)
    | (.elapsed, state) => (.ok .ready, state.note .foundReady)

/-- Whether an end is known and is that of a success. -/
def succeeded (exit : Option Exit) : Bool :=
  exit.any Exit.isSuccess

/-- How a session ended in which both processes have ended by themselves. -/
def verdict (state : Supervision σ) : SessionState :=
  if succeeded state.producer && succeeded state.consumer then .succeeded else .failed

/-- Waits until it is clear how the session ends. -/
def awaitEnd (host : Host σ) (plan : Plan) (state : Supervision σ) :
    Except Cause SessionState × Supervision σ :=
  match state.awaitEither host plan.timeout with
  | (.came (.producer, _), state) =>
    match (state.note (.entered .draining)).awaitConsumer host plan.drainGrace with
    | (.came _, state) => (.ok state.verdict, state)
    | (.failed cause, state) => (.error cause, state)
    | (.elapsed, state) => (.ok (.timedOut .drain), state)
  | (.came (.consumer, _), state) =>
    match state.poll host .producer with
    | (.ok (some _), state) => (.ok state.verdict, state)
    | (.ok none, state) => (.ok .orderViolation, state)
    | (.error cause, state) => (.error cause, state)
  | (.failed cause, state) => (.error cause, state)
  | (.elapsed, state) => (.ok (.timedOut .global), state)

def report (plan : Plan) (slot : Slot) (ended : SessionState) (runTime : Duration)
    (state : Supervision σ) : Report :=
  ⟨slot.id, plan.profiler, ended, state.producer, state.consumer, runTime⟩

/-- Ends both processes by force, unless they have ended. -/
def terminateBoth (host : Host σ) (state : Supervision σ) : Supervision σ :=
  (state.terminate host .producer).terminate host .consumer

/-- Supervises both processes from the launch of the producer, which was at a time. -/
def superviseBoth (host : Host σ) (plan : Plan) (slot : Slot) (launched : Duration)
    (state : Supervision σ) : Except SessionFault Report × Supervision σ :=
  let (outcome, state) := (state.note (.entered .running)).awaitEnd host plan
  let runTime : Duration := ⟨(host.clock state.system).nanoseconds - launched.nanoseconds⟩
  match outcome with
  | .error cause => (.error (.unwaited cause), state.terminateBoth host)
  | .ok ended =>
    let state := if ended = .succeeded then state else state.terminateBoth host
    let state := state.note (.entered .finished)
    (.ok (state.report plan slot ended runTime), state)

/-- Launches the producer for a consumer that is ready, and supervises both. -/
def superviseProducer (host : Host σ) (plan : Plan) (slot : Slot) (state : Supervision σ) :
    Except SessionFault Report × Supervision σ :=
  match (state.note (.entered .producerStarting)).launch host (plan.producerLaunch slot.id) with
  | (.error fault, state) => (.error fault, state.terminate host .consumer)
  | (.ok (), state) => state.superviseBoth host plan slot (host.clock state.system)

/-- Supervises a session with a channel. -/
def supervise (host : Host σ) (plan : Plan) (slot : Slot) (state : Supervision σ) :
    Except SessionFault Report × Supervision σ :=
  match (state.note (.entered .consumerStarting)).launch host (plan.consumerLaunch slot.id) with
  | (.error fault, state) => (.error fault, state)
  | (.ok (), state) =>
    match state.awaitReady host plan slot with
    | (.error fault, state) => (.error fault, state.terminate host .consumer)
    | (.ok (.exited _), state) =>
      let state := state.note (.entered .finished)
      (.ok (state.report plan slot .orderViolation ⟨0⟩), state)
    | (.ok .ready, state) => state.superviseProducer host plan slot

structure Outcome (σ : Type) where
  result : Except SessionFault Report
  said : Output
  journal : List Action
  system : σ

/-- Gives up the channel, after which nothing else is done. -/
def release (host : Host σ) (slot : Slot) (state : Supervision σ) : Supervision σ :=
  let files := (slot.release (host.files state.system)).1
  { state with system := host.withFiles files state.system }.note (.released slot)

/-- Runs a session on a host; the marker of its channel says who owns it. -/
def run (host : Host σ) (palette : Palette) (owner : Nat) (candidates : Nat → Nat) (plan : Plan)
    (system : σ) : Outcome σ :=
  match plan.channels.reserve owner candidates (host.files system) with
  | .error fault => ⟨.error (.unreserved fault), .empty, [], system⟩
  | .ok (slot, files) =>
    let (result, state) := supervise host plan slot (start (host.withFiles files system))
    let state := state.release host slot
    ⟨result, Status.info palette "Channel" ("running with channel id " ++ toString slot.id),
      state.journal, state.system⟩

end Supervision

end ProfilingSession
