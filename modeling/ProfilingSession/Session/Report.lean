import ProfilingSession.Profiler
import ProfilingSession.Session.Fault

/-!
# Reports of sessions

How a session ended, and the report of it. `Report.result` is the reading of a report as success
or fault, `Report.record` its text in the session record.
-/

namespace ProfilingSession

inductive Phase where
  | init
  | consumerStarting
  | producerStarting
  | running
  | draining
  | finished
  deriving DecidableEq, Repr

namespace Phase

def all : List Phase :=
  [.init, .consumerStarting, .producerStarting, .running, .draining, .finished]

def name : Phase → String
  | .init => "init"
  | .consumerStarting => "consumer-starting"
  | .producerStarting => "producer-starting"
  | .running => "running"
  | .draining => "draining"
  | .finished => "finished"

def rank : Phase → Nat
  | .init => 0
  | .consumerStarting => 1
  | .producerStarting => 2
  | .running => 3
  | .draining => 4
  | .finished => 5

end Phase

inductive SessionState where
  /-- Both processes ended with code zero. -/
  | succeeded
  /-- A deadline passed. -/
  | timedOut (deadline : Deadline)
  /-- The consumer ended while the producer was running. -/
  | orderViolation
  /-- Both processes ended, at least one of them not with code zero. -/
  | failed
  deriving DecidableEq, Repr

namespace SessionState

def recordName : SessionState → String
  | .succeeded => "succeeded"
  | .timedOut _ => "timed_out"
  | .orderViolation => "order_violation"
  | .failed => "failed"

def text : SessionState → String
  | .succeeded => "succeeded"
  | .timedOut deadline => "timed out (" ++ deadline.text ++ ")"
  | .orderViolation => "order violation"
  | .failed => "failed"

end SessionState

structure Report where
  channel : Nat
  profiler : Profiler
  state : SessionState
  /-- How the producer ended; nothing if it was not launched. -/
  producer : Option Exit
  consumer : Option Exit
  /-- The time from the launch of the producer to the end of supervision. -/
  runTime : Duration
  deriving DecidableEq, Repr

namespace Report

def isSuccess (report : Report) : Bool :=
  report.state == .succeeded

/-- The fault that a report stands for, if its session did not succeed. -/
def result (report : Report) : Except SessionFault Report :=
  match report.state with
  | .succeeded => .ok report
  | .timedOut deadline => .error (.timedOut deadline report.runTime)
  | .orderViolation => .error (.orderViolation (report.consumer.getD .unknown))
  | .failed =>
    .error (.nonZeroExit (report.producer.getD .unknown) (report.consumer.getD .unknown))

/-- How the run time is written in the record. -/
def timeLayout : Decimal.Layout where
  lowest := -5
  highest := 15
  positiveMark := "e+"
  negativeMark := "e-"

/-- The run time in seconds, as the record has it. -/
def runTimeText (report : Report) : String :=
  timeLayout.text (Decimal.shortest report.runTime.secondsMagnitude)

def exitValue : Option Exit → String
  | none => "null"
  | some exit =>
    "\x7b\n    \"code\": " ++ Exit.jsonNumber exit.code ++ ",\n    \"signal\": " ++
      Exit.jsonNumber exit.signal ++ "\n  \x7d"

/-- The fields of the record before the run time, with their values. -/
def fields (report : Report) : List (String × String) :=
  [("channel", toString report.channel),
    ("module", "\"" ++ report.profiler.recordName ++ "\""),
    ("state", "\"" ++ report.state.recordName ++ "\"")] ++
  (match report.state with
    | .timedOut deadline => [("phase", "\"" ++ deadline.recordName ++ "\"")]
    | _ => []) ++
  [("producer", exitValue report.producer), ("consumer", exitValue report.consumer)]

/-- The text of the session record: an object with a field on each line. -/
def record (report : Report) : String :=
  "\x7b\n" ++
    String.join (report.fields.map fun field =>
      "  \"" ++ field.1 ++ "\": " ++ field.2 ++ ",\n") ++
    "  \"run_time_secs\": " ++ report.runTimeText ++ "\n\x7d\n"

end Report

end ProfilingSession
