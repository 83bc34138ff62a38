import Mathlib.Logic.Relation
import ProfilingSession.Proofs.Session.Answers

/-!
# What a session does, step by step

Each function of `Supervision` that asks the host has a lemma here on what the host can answer and
what is made of it. From these, whatever a session does between two launches is a chain of few kinds
of steps: a phase is entered, the consumer is found ready, the host tells an end or nothing, or a
process is killed whose end is not known and that was looked at just before. `Deed` is one such
step, `Deeds` a chain. A property of journals is therefore proved for the kinds of deeds and for a
launch, and holds of every session.
-/

namespace ProfilingSession

variable {σ : Type}

namespace Supervision

open FileTree (Cause)
open Relation (ReflTransGen)

@[simp]
theorem system_note (action : Action) (state : Supervision σ) :
    (state.note action).system = state.system := rfl

@[simp]
theorem journal_note (action : Action) (state : Supervision σ) :
    (state.note action).journal = state.journal ++ [action] := rfl

@[simp]
theorem known_note (action : Action) (role : Role) (state : Supervision σ) :
    (state.note action).known role = state.known role := by
  cases role <;> rfl

@[simp]
theorem system_learn (role : Role) (exit : Exit) (state : Supervision σ) :
    (state.learn role exit).system = state.system := by
  cases role <;> rfl

@[simp]
theorem journal_learn (role : Role) (exit : Exit) (state : Supervision σ) :
    (state.learn role exit).journal = state.journal ++ [.ended role exit] := by
  cases role <;> rfl

@[simp]
theorem known_learn_same (role : Role) (exit : Exit) (state : Supervision σ) :
    (state.learn role exit).known role = some exit := by
  cases role <;> rfl

theorem known_learn_of_ne {role other : Role} (h : other ≠ role) (exit : Exit)
    (state : Supervision σ) : (state.learn role exit).known other = state.known other := by
  cases role <;> cases other <;> first | rfl | exact absurd rfl h

@[simp]
theorem known_withSystem (system : σ) (role : Role) (state : Supervision σ) :
    known role { state with system := system } = state.known role := by
  cases role <;> rfl

/-- Something that a session does on a host between two launches. -/
inductive Deed (host : Host σ) : Supervision σ → Supervision σ → Prop where
  | entered (state : Supervision σ) (phase : Phase) :
    Deed host state (state.note (.entered phase))
  | foundReady (state : Supervision σ) : Deed host state (state.note .foundReady)
  | unlaunched {state : Supervision σ} {launch : Launch} {files : FileTree} {cause : Cause}
    {system : σ} (written : (host.files state.system).writeText launch.log "" = .ok files)
    (failed : host.launch launch (host.withFiles files state.system) = (.error cause, system)) :
    Deed host state { state with system := system }
  | silent {state : Supervision σ} {system : σ} (tells : host.Tells state.system none system) :
    Deed host state { state with system := system }
  | learned {state : Supervision σ} {system : σ} {role : Role} {exit : Exit}
    (tells : host.Tells state.system (some (role, exit)) system) :
    Deed host state (learn role exit { state with system := system })
  /-- Only a process that was launched is killed, and only while its end is not known. -/
  | killed {state : Supervision σ} {seen system : σ} {role : Role}
    {answer : Except Cause (Option Exit)} {exit : Exit}
    (launched : WasLaunched role state.journal) (unknown : state.known role = none)
    (looked : host.poll role state.system = (answer, seen))
    (silent : ∀ exit, answer ≠ .ok (some exit))
    (reaped : host.reap role (host.kill role seen) = (.ok exit, system)) :
    Deed host state (learn role exit (note (.killed role) { state with system := system }))
  | unreaped {state : Supervision σ} {seen system : σ} {role : Role}
    {answer : Except Cause (Option Exit)} {cause : Cause}
    (launched : WasLaunched role state.journal) (unknown : state.known role = none)
    (looked : host.poll role state.system = (answer, seen))
    (silent : ∀ exit, answer ≠ .ok (some exit))
    (failed : host.reap role (host.kill role seen) = (.error cause, system)) :
    Deed host state (note (.killed role) { state with system := system })

abbrev Deeds (host : Host σ) : Supervision σ → Supervision σ → Prop := ReflTransGen (Deed host)

variable {host : Host σ} {before after : Supervision σ}

/-- A deed adds to the journal, but neither a launch nor a release. -/
theorem Deed.journal (h : Deed host before after) :
    ∃ more, after.journal = before.journal ++ more ∧
      (∀ launch, .launched launch ∉ more) ∧ ∀ slot, .released slot ∉ more := by
  cases h with
  | entered phase => exact ⟨[.entered phase], rfl, by simp, by simp⟩
  | foundReady => exact ⟨[.foundReady], rfl, by simp, by simp⟩
  | unlaunched => exact ⟨[], by simp, by simp, by simp⟩
  | silent => exact ⟨[], by simp, by simp, by simp⟩
  | @learned _ role exit => exact ⟨[.ended role exit], by simp, by simp, by simp⟩
  | @killed _ _ role _ exit =>
    exact ⟨[.killed role, .ended role exit], by simp, by simp, by simp⟩
  | @unreaped _ _ role => exact ⟨[.killed role], rfl, by simp, by simp⟩

/-- The host bears out what is done on it. -/
theorem Deed.bearsOut {begun : σ} (h : Deed host before after)
    (borne : host.BearsOut begun before.journal before.system) :
    host.BearsOut begun after.journal after.system := by
  cases h with
  | entered phase => exact borne.entered phase
  | foundReady => exact borne.foundReady
  | unlaunched written failed => exact borne.unlaunched written failed
  | silent tells => exact borne.silent tells
  | learned tells => simpa using borne.ended tells
  | killed _ _ looked silent reaped => simpa using borne.killed looked silent reaped
  | unreaped _ _ looked silent failed => exact borne.unreaped looked silent failed

theorem Deeds.bearsOut {begun : σ} (h : Deeds host before after)
    (borne : host.BearsOut begun before.journal before.system) :
    host.BearsOut begun after.journal after.system := by
  induction h with
  | refl => exact borne
  | tail _ deed ih => exact deed.bearsOut ih

theorem Deeds.journal (h : Deeds host before after) :
    ∃ more, after.journal = before.journal ++ more ∧ ∀ launch, .launched launch ∉ more := by
  induction h with
  | refl => exact ⟨[], by simp, by simp⟩
  | tail _ deed ih =>
    obtain ⟨more, journal, none⟩ := ih
    obtain ⟨more', journal', none', -⟩ := deed.journal
    exact ⟨more ++ more', by rw [journal', journal, List.append_assoc], by simp [none, none']⟩

/-- Nothing is launched between two launches. -/
theorem Deeds.launched_mem_iff (h : Deeds host before after) (launch : Launch) :
    .launched launch ∈ after.journal ↔ .launched launch ∈ before.journal := by
  obtain ⟨more, journal, none⟩ := h.journal
  simp [journal, none]

theorem Deeds.wasLaunched (h : Deeds host before after) {role : Role}
    (launched : WasLaunched role before.journal) : WasLaunched role after.journal := by
  obtain ⟨launch, same, there⟩ := launched
  exact ⟨launch, same, (h.launched_mem_iff launch).mpr there⟩

/-- An end that is known stays known. -/
theorem Deed.isSome_known (h : Deed host before after) {role : Role}
    (known : (before.known role).isSome) : (after.known role).isSome := by
  cases h with
  | entered | foundReady | unlaunched | silent | unreaped => simpa using known
  | @learned _ other =>
    by_cases same : role = other
    · simp [same]
    · simpa [known_learn_of_ne same] using known
  | @killed _ _ other =>
    by_cases same : role = other
    · simp [same]
    · simpa [known_learn_of_ne same] using known

theorem Deeds.isSome_known (h : Deeds host before after) {role : Role}
    (known : (before.known role).isSome) : (after.known role).isSome := by
  induction h with
  | refl => exact known
  | tail _ deed ih => exact deed.isSome_known ih

section Functions

variable {state : Supervision σ}

/-- A wait for the consumer tells its end, or nothing. -/
theorem awaitConsumer_cases (host : Host σ) (limit : Duration) (state : Supervision σ) :
    (∃ exit system, host.awaitConsumer limit state.system = (.came exit, system) ∧
      state.awaitConsumer host limit =
        (.came exit, learn .consumer exit { state with system := system })) ∨
    ∃ wake system, host.awaitConsumer limit state.system = (wake, system) ∧
      (∀ exit, wake ≠ .came exit) ∧
      state.awaitConsumer host limit = (wake, { state with system := system }) := by
  rcases waited : host.awaitConsumer limit state.system with ⟨exit | cause | _, system⟩
  · exact .inl ⟨exit, system, rfl, by simp only [awaitConsumer, waited]⟩
  · exact .inr ⟨_, system, rfl, by simp, by simp only [awaitConsumer, waited]⟩
  · exact .inr ⟨_, system, rfl, by simp, by simp only [awaitConsumer, waited]⟩

/-- A wait for either process tells the end of one, or nothing. -/
theorem awaitEither_cases (host : Host σ) (limit : Duration) (state : Supervision σ) :
    (∃ role exit system, host.awaitEither limit state.system = (.came (role, exit), system) ∧
      state.awaitEither host limit =
        (.came (role, exit), learn role exit { state with system := system })) ∨
    ∃ wake system, host.awaitEither limit state.system = (wake, system) ∧
      (∀ what, wake ≠ .came what) ∧
      state.awaitEither host limit = (wake, { state with system := system }) := by
  rcases waited : host.awaitEither limit state.system with ⟨⟨role, exit⟩ | cause | _, system⟩
  · exact .inl ⟨role, exit, system, rfl, by simp only [awaitEither, waited]⟩
  · exact .inr ⟨_, system, rfl, by simp, by simp only [awaitEither, waited]⟩
  · exact .inr ⟨_, system, rfl, by simp, by simp only [awaitEither, waited]⟩

theorem poll_of_known {role : Role} {exit : Exit} (h : state.known role = some exit) :
    state.poll host role = (.ok (some exit), state) := by
  simp [poll, h]

/-- The host is asked for an end that is not known, and tells it or not. -/
theorem poll_cases (host : Host σ) (role : Role) (state : Supervision σ) :
    (∃ exit, state.known role = some exit ∧ state.poll host role = (.ok (some exit), state)) ∨
    (∃ exit system, state.known role = none ∧
      host.poll role state.system = (.ok (some exit), system) ∧
      state.poll host role =
        (.ok (some exit), learn role exit { state with system := system })) ∨
    ∃ answer system, state.known role = none ∧ host.poll role state.system = (answer, system) ∧
      (∀ exit, answer ≠ .ok (some exit)) ∧
      state.poll host role = (answer, { state with system := system }) := by
  cases unknown : state.known role with
  | some exit => exact .inl ⟨exit, rfl, poll_of_known unknown⟩
  | none =>
    rcases looked : host.poll role state.system with ⟨_ | _ | exit, system⟩
    · exact .inr (.inr ⟨_, system, rfl, rfl, by simp, by simp only [poll, unknown, looked]⟩)
    · exact .inr (.inr ⟨_, system, rfl, rfl, by simp, by simp only [poll, unknown, looked]⟩)
    · exact .inr (.inl ⟨exit, system, rfl, rfl, by simp only [poll, unknown, looked]⟩)

/-- What is killed is waited for, and its end is known unless that fails. -/
theorem kill_cases (host : Host σ) (role : Role) (state : Supervision σ) :
    (∃ exit system, host.reap role (host.kill role state.system) = (.ok exit, system) ∧
      state.kill host role =
        learn role exit (note (.killed role) { state with system := system })) ∨
    ∃ cause system, host.reap role (host.kill role state.system) = (.error cause, system) ∧
      state.kill host role = note (.killed role) { state with system := system } := by
  rcases reaped : host.reap role (host.kill role state.system) with ⟨cause | exit, system⟩
  · exact .inr ⟨cause, system, rfl, by simp only [kill, reaped]⟩
  · exact .inl ⟨exit, system, rfl, by simp only [kill, reaped]⟩

/-- A process is let alone if its end is known or a look tells it, and killed if not. -/
theorem terminate_cases (host : Host σ) (role : Role) (state : Supervision σ) :
    (∃ exit, state.known role = some exit ∧ state.terminate host role = state) ∨
    (∃ exit system, host.poll role state.system = (.ok (some exit), system) ∧
      state.terminate host role = learn role exit { state with system := system }) ∨
    ∃ answer seen, state.known role = none ∧ host.poll role state.system = (answer, seen) ∧
      (∀ exit, answer ≠ .ok (some exit)) ∧
      state.terminate host role = kill host role { state with system := seen } := by
  rcases poll_cases host role state with ⟨exit, known, polled⟩ |
    ⟨exit, system, -, looked, polled⟩ | ⟨answer, seen, unknown, looked, silent, polled⟩
  · exact .inl ⟨exit, known, by simp only [terminate, polled]⟩
  · exact .inr (.inl ⟨exit, system, looked, by simp only [terminate, polled]⟩)
  · exact .inr (.inr ⟨answer, seen, unknown, looked, silent, by simp only [terminate, polled]⟩)

/-- A launch that succeeds is noted, and nothing else is. -/
theorem launch_cases (host : Host σ) (launch : Launch) (state : Supervision σ) :
    (∃ fault system, state.launch host launch = (.error fault, { state with system := system }) ∧
      Deeds host state { state with system := system }) ∨
    ∃ system, host.Starts launch state.system system ∧ state.launch host launch =
      (.ok (), note (.launched launch) { state with system := system }) := by
  unfold Supervision.launch
  split
  · exact .inl ⟨_, state.system, rfl, .refl⟩
  · next files written =>
    split
    · next system failed => exact .inl ⟨_, system, rfl, .single (.unlaunched written failed)⟩
    · next system started => exact .inr ⟨system, ⟨files, written, started⟩, rfl⟩

theorem deeds_awaitConsumer (host : Host σ) (limit : Duration) (state : Supervision σ) :
    Deeds host state (state.awaitConsumer host limit).2 := by
  rcases awaitConsumer_cases host limit state with
    ⟨exit, system, came, same⟩ | ⟨wake, system, waited, silent, same⟩
  · rw [same]
    exact .single (.learned (.consumer came))
  · rw [same]
    exact .single (.silent (.noConsumer waited silent))

theorem deeds_awaitEither (host : Host σ) (limit : Duration) (state : Supervision σ) :
    Deeds host state (state.awaitEither host limit).2 := by
  rcases awaitEither_cases host limit state with
    ⟨role, exit, system, came, same⟩ | ⟨wake, system, waited, silent, same⟩
  · rw [same]
    exact .single (.learned (.either came))
  · rw [same]
    exact .single (.silent (.neither waited silent))

theorem deeds_poll (host : Host σ) (role : Role) (state : Supervision σ) :
    Deeds host state (state.poll host role).2 := by
  rcases poll_cases host role state with ⟨exit, known, same⟩ |
    ⟨exit, system, -, told, same⟩ | ⟨answer, system, -, looked, silent, same⟩
  · rw [same]
  · rw [same]
    exact .single (.learned (.looked told))
  · rw [same]
    exact .single (.silent (.unseen looked silent))

theorem deeds_terminate (host : Host σ) {role : Role}
    (launched : WasLaunched role state.journal) :
    Deeds host state (state.terminate host role) := by
  rcases terminate_cases host role state with ⟨exit, known, same⟩ |
    ⟨exit, system, told, same⟩ | ⟨answer, seen, unknown, looked, silent, same⟩
  · rw [same]
  · rw [same]
    exact .single (.learned (.looked told))
  · rw [same]
    rcases kill_cases host role { state with system := seen } with
      ⟨exit, system, reaped, killed⟩ | ⟨cause, system, failed, killed⟩
    · rw [killed]
      exact .single (.killed launched unknown looked silent reaped)
    · rw [killed]
      exact .single (.unreaped launched unknown looked silent failed)

theorem deeds_terminateBoth (host : Host σ) (producer : WasLaunched .producer state.journal)
    (consumer : WasLaunched .consumer state.journal) :
    Deeds host state (state.terminateBoth host) := by
  have first : Deeds host state (state.terminate host .producer) := deeds_terminate host producer
  exact first.trans (deeds_terminate host (first.wasLaunched consumer))

theorem deeds_awaitSegment (host : Host σ) (timeout : Duration) (segment : FileTree.Path)
    (rest : Duration) (looks : Nat) (state : Supervision σ) :
    Deeds host state (state.awaitSegment host timeout segment rest looks).2 := by
  induction looks generalizing state with
  | zero =>
    have waited := deeds_awaitConsumer host rest state
    unfold awaitSegment
    split
    · exact .single (.foundReady state)
    · split <;> simp_all
  | succ looks ih =>
    have waited := deeds_awaitConsumer host lookInterval state
    unfold awaitSegment
    split
    · exact .single (.foundReady state)
    · split
      · simp_all
      · simp_all
      · next after same =>
        rw [same] at waited
        exact waited.trans (ih after)

theorem deeds_awaitReady (host : Host σ) (plan : Plan) (slot : Slot) (state : Supervision σ) :
    Deeds host state (state.awaitReady host plan slot).2 := by
  unfold awaitReady
  split
  · exact deeds_awaitSegment ..
  · next delay _ =>
    have waited := deeds_awaitConsumer host delay state
    split
    · simp_all
    · simp_all
    · next after same =>
      rw [same] at waited
      exact waited.tail (.foundReady after)

theorem deeds_awaitEnd (host : Host σ) (plan : Plan) (state : Supervision σ) :
    Deeds host state (state.awaitEnd host plan).2 := by
  have waited := deeds_awaitEither host plan.timeout state
  unfold awaitEnd
  split
  · next exit after same =>
    rw [same] at waited
    have draining := waited.tail (.entered after .draining)
    have more := draining.trans (deeds_awaitConsumer host plan.drainGrace _)
    split <;> simp_all
  · next exit after same =>
    rw [same] at waited
    have more := waited.trans (deeds_poll host .producer after)
    split <;> simp_all
  · simp_all
  · simp_all

/-- From the launch of the consumer the host has come to a state in which the consumer was found
ready: the delay is over, or the segment is there, and no wait has told the end of the consumer. -/
def Readied (host : Host σ) (plan : Plan) (slot : Slot) (launched ready : σ) : Prop :=
  match plan.readiness with
  | .published _ =>
    ReflTransGen (fun before after => host.awaitConsumer lookInterval before = (.elapsed, after))
      launched ready ∧ (host.files ready).hasNode slot.segment = true
  | .warmUp delay => host.awaitConsumer delay launched = (.elapsed, ready)

/-- What a wait for the segment comes to: the consumer is ready and no end became known, or its
end did, or the wait failed. -/
theorem awaitSegment_cases (host : Host σ) (timeout : Duration) (segment : FileTree.Path)
    (rest : Duration) (looks : Nat) (state : Supervision σ) :
    (∃ ready, state.awaitSegment host timeout segment rest looks =
        (.ok .ready, note .foundReady { state with system := ready }) ∧
      ReflTransGen
        (fun before after => host.awaitConsumer lookInterval before = (.elapsed, after))
        state.system ready ∧
      (host.files ready).hasNode segment = true) ∨
    (∃ exit system, state.awaitSegment host timeout segment rest looks =
      (.ok (.exited exit), learn .consumer exit { state with system := system })) ∨
    ∃ fault system, state.awaitSegment host timeout segment rest looks =
      (.error fault, { state with system := system }) := by
  induction looks generalizing state with
  | zero =>
    unfold awaitSegment
    by_cases seen : (host.files state.system).hasNode segment = true
    · exact .inl ⟨state.system, by simp [seen], .refl, seen⟩
    rw [if_neg seen]
    rcases awaitConsumer_cases host rest state with
      ⟨exit, system, -, same⟩ | ⟨exit | cause | _, system, -, silent, same⟩
    · exact .inr (.inl ⟨exit, system, by rw [same]⟩)
    · exact absurd rfl (silent exit)
    · exact .inr (.inr ⟨_, system, by rw [same]⟩)
    · exact .inr (.inr ⟨_, system, by rw [same]⟩)
  | succ looks ih =>
    unfold awaitSegment
    by_cases seen : (host.files state.system).hasNode segment = true
    · exact .inl ⟨state.system, by simp [seen], .refl, seen⟩
    rw [if_neg seen]
    rcases awaitConsumer_cases host lookInterval state with
      ⟨exit, system, -, same⟩ | ⟨exit | cause | _, system, waited, silent, same⟩
    · exact .inr (.inl ⟨exit, system, by rw [same]⟩)
    · exact absurd rfl (silent exit)
    · exact .inr (.inr ⟨_, system, by rw [same]⟩)
    · rw [same]
      rcases ih { state with system := system } with
        ⟨ready, found, chain, seen⟩ | ended | failed
      · exact .inl ⟨ready, found, chain.head waited, seen⟩
      · exact .inr (.inl ended)
      · exact .inr (.inr failed)

theorem awaitReady_cases (host : Host σ) (plan : Plan) (slot : Slot) (state : Supervision σ) :
    (∃ ready, Readied host plan slot state.system ready ∧ state.awaitReady host plan slot =
      (.ok .ready, note .foundReady { state with system := ready })) ∨
    (∃ exit system, state.awaitReady host plan slot =
      (.ok (.exited exit), learn .consumer exit { state with system := system })) ∨
    ∃ fault system, state.awaitReady host plan slot =
      (.error fault, { state with system := system }) := by
  unfold awaitReady Readied
  cases plan.readiness with
  | published timeout =>
    rcases awaitSegment_cases host timeout slot.segment
        ⟨timeout.nanoseconds % lookInterval.nanoseconds⟩
        (timeout.nanoseconds / lookInterval.nanoseconds) state with
      ⟨ready, found, chain, seen⟩ | ended | failed
    · exact .inl ⟨ready, ⟨chain, seen⟩, found⟩
    · exact .inr (.inl ended)
    · exact .inr (.inr failed)
  | warmUp delay =>
    rcases awaitConsumer_cases host delay state with
      ⟨exit, system, -, same⟩ | ⟨exit | cause | _, system, waited, silent, same⟩
    · exact .inr (.inl ⟨exit, system, by simp only [same]⟩)
    · exact absurd rfl (silent exit)
    · exact .inr (.inr ⟨.unwaited cause, system, by simp only [same]⟩)
    · exact .inl ⟨system, waited, by simp only [same]⟩

/-- No end becomes known by a wait for the consumer to be ready, unless it is that of the
consumer. -/
theorem known_awaitReady {plan : Plan} {slot : Slot} {startup : Startup}
    (h : state.awaitReady host plan slot = (.ok startup, after)) :
    (startup = .ready ∧ ∀ role, after.known role = state.known role) ∨
      ∃ exit, startup = .exited exit ∧ after.known .consumer = some exit := by
  rcases awaitReady_cases host plan slot state with
    ⟨ready, -, same⟩ | ⟨exit, system, same⟩ | ⟨fault, system, same⟩
  · cases same.symm.trans h
    exact .inl ⟨rfl, by simp⟩
  · cases same.symm.trans h
    exact .inr ⟨exit, rfl, by simp⟩
  · cases same.symm.trans h

theorem superviseBoth_of_error {cause : FileTree.Cause} (plan : Plan)
    (slot : Slot) (launched : Duration)
    (h : (state.note (.entered .running)).awaitEnd host plan = (.error cause, after)) :
    state.superviseBoth host plan slot launched =
      (.error (.unwaited cause), after.terminateBoth host) := by
  simp only [superviseBoth, h]

theorem superviseBoth_eq_report {ended : SessionState} (plan : Plan)
    (slot : Slot) (launched : Duration)
    (h : (state.note (.entered .running)).awaitEnd host plan = (.ok ended, after)) :
    let last := note (.entered .finished)
      (if ended = .succeeded then after else after.terminateBoth host)
    state.superviseBoth host plan slot launched =
      (.ok (last.report plan slot ended
        ⟨(host.clock after.system).nanoseconds - launched.nanoseconds⟩), last) := by
  simp only [superviseBoth, h]

theorem superviseBoth_of_ok {ended : SessionState} (plan : Plan)
    (slot : Slot) (launched : Duration)
    (h : (state.note (.entered .running)).awaitEnd host plan = (.ok ended, after)) :
    ∃ report, report.state = ended ∧
      state.superviseBoth host plan slot launched = (.ok report,
        note (.entered .finished)
          (if ended = .succeeded then after else after.terminateBoth host)) :=
  ⟨_, rfl, superviseBoth_eq_report plan slot launched h⟩

theorem deeds_superviseBoth (host : Host σ) (plan : Plan) (slot : Slot) (launched : Duration)
    (producer : WasLaunched .producer state.journal)
    (consumer : WasLaunched .consumer state.journal) :
    Deeds host state (state.superviseBoth host plan slot launched).2 := by
  have running : Deeds host state (state.note (.entered .running)) := .single (.entered ..)
  have ended : Deeds host state _ := running.trans (deeds_awaitEnd host plan _)
  cases h : (state.note (.entered .running)).awaitEnd host plan with
  | mk outcome after =>
    rw [h] at ended
    have terminated : Deeds host state (after.terminateBoth host) := ended.trans <|
      deeds_terminateBoth host (ended.wasLaunched producer) (ended.wasLaunched consumer)
    cases outcome with
    | error cause =>
      rw [superviseBoth_of_error plan slot launched h]
      exact terminated
    | ok outcome =>
      obtain ⟨report, -, same⟩ := superviseBoth_of_ok plan slot launched h
      rw [same]
      split
      · exact ended.tail (.entered ..)
      · exact terminated.tail (.entered ..)

end Functions

end Supervision

end ProfilingSession
