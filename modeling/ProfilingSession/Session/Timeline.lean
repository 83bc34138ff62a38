import ProfilingSession.Session.Supervision

/-!
# Timelines

The plainest host: each process is known by when it ends and how, or that it never does. What a
session makes of two processes can be told from their times alone, and a timeline is the place to
say so. Processes are launched in no time, and a process ends at once when it is killed.
-/

namespace ProfilingSession

open FileTree (Cause)

structure Ending where
  time : Nat
  exit : Exit
  deriving DecidableEq, Repr

/-- The files, the time, and the ends of the processes to come; a process without one never ends
by itself. -/
structure Timeline where
  files : FileTree
  now : Nat
  producer : Option Ending
  consumer : Option Ending

namespace Timeline

def ending (timeline : Timeline) : Role → Option Ending
  | .producer => timeline.producer
  | .consumer => timeline.consumer

/-- The timeline at a time, unless it is later already. -/
def advance (time : Nat) (timeline : Timeline) : Timeline :=
  { timeline with now := max timeline.now time }

def await {α : Type} (limit : Duration) (next : Option (Nat × α)) (timeline : Timeline) :
    Wake α × Timeline :=
  let deadline := timeline.now + limit.nanoseconds
  match next with
  | some (time, what) =>
    if time ≤ deadline then (.came what, timeline.advance time)
    else (.elapsed, timeline.advance deadline)
  | none => (.elapsed, timeline.advance deadline)

/-- The end that comes first; of two at one time it is that of the producer. -/
def firstEnding (timeline : Timeline) : Option (Nat × (Role × Exit)) :=
  match timeline.producer, timeline.consumer with
  | some p, some c =>
    if p.time ≤ c.time then some (p.time, .producer, p.exit) else some (c.time, .consumer, c.exit)
  | some p, none => some (p.time, .producer, p.exit)
  | none, some c => some (c.time, .consumer, c.exit)
  | none, none => none

def poll (role : Role) (timeline : Timeline) : Option Exit :=
  ((timeline.ending role).filter fun ending => ending.time ≤ timeline.now).map Ending.exit

def kill (role : Role) (timeline : Timeline) : Timeline :=
  let ending := some ⟨timeline.now, .ofSignal 9⟩
  match role with
  | .producer => { timeline with producer := ending }
  | .consumer => { timeline with consumer := ending }

/-- Waits for the end of a process; one that never ends cannot be waited for. -/
def reap (role : Role) (timeline : Timeline) : Except Cause Exit × Timeline :=
  match timeline.ending role with
  | some ending => (.ok ending.exit, timeline.advance ending.time)
  | none => (.error .noChild, timeline)

def host : Host Timeline where
  files := Timeline.files
  withFiles files timeline := { timeline with files := files }
  launch _ timeline := (.ok (), timeline)
  awaitConsumer limit timeline :=
    timeline.await limit (timeline.consumer.map fun ending => (ending.time, ending.exit))
  awaitEither limit timeline := timeline.await limit timeline.firstEnding
  poll role timeline := (.ok (timeline.poll role), timeline)
  kill := kill
  reap := reap
  clock timeline := ⟨timeline.now⟩

end Timeline

end ProfilingSession
