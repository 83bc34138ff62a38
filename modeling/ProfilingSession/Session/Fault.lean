import ProfilingSession.Duration
import ProfilingSession.FileTree.Cause
import ProfilingSession.FileTree.Path
import ProfilingSession.Session.Exit

/-!
# What can go wrong with a session

The two roles in a session, the two deadlines, and what can go wrong: with the reservation of a
channel, with a process, with the session as a whole, and with moving its result away. Each has a
message, and `chain` gives the messages of a fault and of what caused it.
-/

namespace ProfilingSession

open FileTree (Cause Path)

inductive Role where
  | producer
  | consumer
  deriving DecidableEq, Repr

def Role.name : Role → String
  | .producer => "producer"
  | .consumer => "consumer"

inductive Deadline where
  /-- Neither process ended within the time of the whole session. -/
  | global
  /-- The consumer went on for too long after the producer had ended. -/
  | drain
  deriving DecidableEq, Repr

def Deadline.recordName : Deadline → String
  | .global => "global"
  | .drain => "drain"

def Deadline.text : Deadline → String
  | .global => "global timeout"
  | .drain => "drain grace period"

/-- Why no channel was reserved. -/
inductive ChannelFault where
  /-- None of the ids that were tried is free. -/
  | exhausted (low high attempts : Nat)
  /-- The marker of an id cannot be made. -/
  | unmarkable (path : Path) (cause : Cause)
  deriving DecidableEq, Repr

def ChannelFault.message : ChannelFault → String
  | .exhausted low high attempts =>
    "No free channel id in " ++ toString low ++ "..=" ++ toString high ++ " after " ++
      toString attempts ++ " attempts"
  | .unmarkable path cause => "Cannot reserve channel marker " ++ path ++ ": " ++ cause.message

def ChannelFault.causes : ChannelFault → List String
  | .exhausted .. => []
  | .unmarkable _ cause => [cause.message]

/-- Why there is no session, or no successful one. -/
inductive SessionFault where
  | unreserved (fault : ChannelFault)
  | unlaunched (role : Role) (program : Path) (cause : Cause)
  | consumerNotReady (waited : Duration)
  | orderViolation (consumer : Exit)
  | timedOut (deadline : Deadline) (elapsed : Duration)
  | nonZeroExit (producer consumer : Exit)
  /-- A process cannot be waited for. -/
  | unwaited (cause : Cause)
  deriving DecidableEq, Repr

def SessionFault.message : SessionFault → String
  | .unreserved fault => fault.message
  | .unlaunched role program cause =>
    "Failed to launch " ++ role.name ++ " " ++ program ++ ": " ++ cause.message
  | .consumerNotReady waited => "Consumer did not publish the channel within " ++ waited.text
  | .orderViolation consumer =>
    "Consumer finished (" ++ consumer.text ++ ") while the producer was still running"
  | .timedOut deadline elapsed =>
    "Timed out after " ++ elapsed.text ++ " (" ++ deadline.text ++ ")"
  | .nonZeroExit producer consumer =>
    "Session failed: producer " ++ producer.text ++ ", consumer " ++ consumer.text
  | .unwaited cause => cause.message

def SessionFault.causes : SessionFault → List String
  | .unreserved fault => fault.causes
  | .unlaunched _ _ cause => [cause.message]
  | _ => []

structure MoveFault where
  source : Path
  destination : Path
  cause : Cause
  deriving DecidableEq, Repr

def MoveFault.message (fault : MoveFault) : String :=
  "Failed to move " ++ fault.source ++ " to " ++ fault.destination ++ ": " ++ fault.cause.message

/-- The messages of a fault and of what caused it, outermost first, in one line. -/
def chainText (messages : List String) : String :=
  ": ".intercalate messages

end ProfilingSession
