import ProfilingSession.FileTree.Basic
import ProfilingSession.Session.Plan

/-!
# Hosts

A host is the system that the processes of a session run on, as far as the session can see and
touch it: its files, the launch and the end of the two processes, and a clock. What a host does
is up to it; a session is right only if it is right on every host.

At most one process of each role is ever launched, so that a role is enough to name a process.
-/

namespace ProfilingSession

open FileTree (Cause)

/-- How a wait with a limit ends. -/
inductive Wake (α : Type) where
  /-- What was waited for came in time. -/
  | came (what : α)
  | failed (cause : Cause)
  /-- The limit was reached first. -/
  | elapsed
  deriving DecidableEq, Repr

/-- A system with states of a type. -/
structure Host (σ : Type) where
  files : σ → FileTree
  withFiles : FileTree → σ → σ
  /-- Starts a program whose log is there. -/
  launch : Launch → σ → Except Cause Unit × σ
  /-- Waits for the end of the consumer. -/
  awaitConsumer : Duration → σ → Wake Exit × σ
  /-- Waits for the end of the process that ends first. -/
  awaitEither : Duration → σ → Wake (Role × Exit) × σ
  /-- Looks whether a process has ended, without waiting. -/
  poll : Role → σ → Except Cause (Option Exit) × σ
  /-- Ends a process by force. -/
  kill : Role → σ → σ
  /-- Waits for the end of a process, however long it takes. -/
  reap : Role → σ → Except Cause Exit × σ
  /-- The time since some moment. -/
  clock : σ → Duration

end ProfilingSession
