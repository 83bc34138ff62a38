import ProfilingSession.Channels
import ProfilingSession.Profiler

/-!
# Plans of sessions

A plan says what a session runs and how long it waits: the two programs with their arguments and
the files their output goes to, the channels to choose from, and the deadlines.
-/

namespace ProfilingSession

open FileTree (Path)

/-- When the consumer counts as ready for the producer. -/
inductive Readiness where
  /-- When it has made the segment, which it has to do within a time. -/
  | published (timeout : Duration)
  /-- After a delay. -/
  | warmUp (delay : Duration)
  deriving DecidableEq, Repr

structure Plan where
  profiler : Profiler
  /-- The threads that the consumer shares its work among. -/
  threads : Nat
  /-- The time for the whole session, from the launch of the producer. -/
  timeout : Duration
  /-- The time for the consumer after the end of the producer. -/
  drainGrace : Duration
  readiness : Readiness
  consumer : Path
  producer : Path
  producerArguments : List String
  /-- The directory of the files that output goes to. -/
  logDirectory : Path
  channels : Channels
  deriving DecidableEq, Repr

structure Launch where
  role : Role
  program : Path
  arguments : List String
  /-- The id that the process finds in its environment. -/
  channel : Nat
  /-- The file that its output goes to. -/
  log : Path
  deriving DecidableEq, Repr

namespace Launch

/-- The name of the variable that tells a process the id of its channel. -/
def channelVariable : String := "SLAMP_QUEUE_ID"

end Launch

namespace Plan

/-- The usual plan for an analysis and two programs. -/
def standard (profiler : Profiler) (consumer producer : Path) : Plan where
  profiler := profiler
  threads := 1
  timeout := .ofSeconds 7200
  drainGrace := .ofSeconds 10
  readiness := .published (.ofSeconds 30)
  consumer := consumer
  producer := producer
  producerArguments := []
  logDirectory := "."
  channels := .inDirectory Channels.standardDirectory

def consumerArguments (plan : Plan) : List String :=
  ["--module", toString plan.profiler.index, "--threads", toString plan.threads]

def consumerLog (plan : Plan) : Path :=
  Path.join plan.logDirectory "consumer.log"

def producerLog (plan : Plan) : Path :=
  Path.join plan.logDirectory "producer.log"

def consumerLaunch (plan : Plan) (channel : Nat) : Launch :=
  ⟨.consumer, plan.consumer, plan.consumerArguments, channel, plan.consumerLog⟩

def producerLaunch (plan : Plan) (channel : Nat) : Launch :=
  ⟨.producer, plan.producer, plan.producerArguments, channel, plan.producerLog⟩

end Plan

end ProfilingSession
