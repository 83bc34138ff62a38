import ProfilingSession.Proofs.Channels.Candidates
import ProfilingSession.Proofs.Session.Cleanup

/-!
# The order of a session

The consumer is launched, found ready, and only then is the producer launched. `Course` tells the
journals that a session can have, each with what came of it: a session that gets to the producer
has found the consumer ready in the state of the host in which it launches the producer, and has
not seen its end. What follows is `Watched`: nothing is launched any more, the phases go on, and a
session is reported only as the last thing.

`Sequenced` says what this comes to for the whole session, from the reservation of its slot to the
release.
-/

namespace ProfilingSession

namespace Action

def launch? : Action → Option Launch
  | .launched launch => some launch
  | _ => none

def phase? : Action → Option Phase
  | .entered phase => some phase
  | _ => none

def IsEnd : Action → Prop
  | .ended .. => True
  | _ => False

/-- An end became known, or was forced. -/
def IsEnding (action : Action) : Prop :=
  action.IsEnd ∨ ∃ role, action = .killed role

theorem IsEnding.eq_none {action : Action} (h : action.IsEnding) :
    action.launch? = none ∧ action.phase? = none := by
  rcases h with ended | ⟨role, rfl⟩
  · cases action with
    | ended role exit => exact ⟨rfl, rfl⟩
    | _ => cases ended
  · exact ⟨rfl, rfl⟩

end Action

namespace Supervision

variable {σ : Type} {host : Host σ} {plan : Plan} {slot : Slot} {state after : Supervision σ}

def launches (journal : List Action) : List Launch :=
  journal.filterMap Action.launch?

def phases (journal : List Action) : List Phase :=
  journal.filterMap Action.phase?

@[simp]
theorem launches_append (first rest : List Action) :
    launches (first ++ rest) = launches first ++ launches rest :=
  List.filterMap_append

@[simp]
theorem phases_append (first rest : List Action) :
    phases (first ++ rest) = phases first ++ phases rest :=
  List.filterMap_append

@[simp]
theorem launches_cons (action : Action) (rest : List Action) :
    launches (action :: rest) = action.launch?.toList ++ launches rest := by
  cases action <;> rfl

@[simp]
theorem phases_cons (action : Action) (rest : List Action) :
    phases (action :: rest) = action.phase?.toList ++ phases rest := by
  cases action <;> rfl

@[simp]
theorem launches_nil : launches [] = [] := rfl

@[simp]
theorem phases_nil : phases [] = [] := rfl

theorem launches_of_isEnding {more : List Action} (h : ∀ action ∈ more, action.IsEnding) :
    launches more = [] :=
  List.filterMap_eq_nil_iff.mpr fun action mem => (h action mem).eq_none.1

theorem phases_of_isEnding {more : List Action} (h : ∀ action ∈ more, action.IsEnding) :
    phases more = [] :=
  List.filterMap_eq_nil_iff.mpr fun action mem => (h action mem).eq_none.2

theorem killed_notMem_of_isEnd {more : List Action} (h : ∀ action ∈ more, action.IsEnd)
    (role : Role) : .killed role ∉ more :=
  fun mem => h _ mem

/-- Only actions of a kind were added to the journal. -/
def Adds (kind : Action → Prop) (before after : Supervision σ) : Prop :=
  ∃ more, after.journal = before.journal ++ more ∧ ∀ action ∈ more, kind action

namespace Adds

variable {kind : Action → Prop} {before between : Supervision σ}

theorem of_eq (same : after.journal = before.journal) : Adds kind before after :=
  ⟨[], by simp [same], by simp⟩

theorem trans (h : Adds kind before between) (h' : Adds kind between after) :
    Adds kind before after := by
  obtain ⟨more, journal, all⟩ := h
  obtain ⟨more', journal', all'⟩ := h'
  refine ⟨more ++ more', by rw [journal', journal, List.append_assoc], fun action mem => ?_⟩
  rcases List.mem_append.mp mem with mem | mem
  · exact all action mem
  · exact all' action mem

theorem mono {other : Action → Prop} (h : Adds kind before after)
    (sub : ∀ action, kind action → other action) : Adds other before after := by
  obtain ⟨more, journal, all⟩ := h
  exact ⟨more, journal, fun action mem => sub action (all action mem)⟩

end Adds

section Functions

theorem adds_learn (system : σ) (role : Role) (exit : Exit) (state : Supervision σ) :
    Adds Action.IsEnd state (learn role exit { state with system := system }) :=
  ⟨[.ended role exit], journal_learn .., by simp [Action.IsEnd]⟩

theorem adds_awaitEither (host : Host σ) (limit : Duration) (state : Supervision σ) :
    Adds Action.IsEnd state (state.awaitEither host limit).2 := by
  rcases awaitEither_cases host limit state with
    ⟨role, exit, system, -, same⟩ | ⟨wake, system, -, -, same⟩
  · rw [same]
    exact adds_learn ..
  · rw [same]
    exact .of_eq rfl

theorem adds_awaitConsumer (host : Host σ) (limit : Duration) (state : Supervision σ) :
    Adds Action.IsEnd state (state.awaitConsumer host limit).2 := by
  rcases awaitConsumer_cases host limit state with
    ⟨exit, system, -, same⟩ | ⟨wake, system, -, -, same⟩
  · rw [same]
    exact adds_learn ..
  · rw [same]
    exact .of_eq rfl

theorem adds_poll (host : Host σ) (role : Role) (state : Supervision σ) :
    Adds Action.IsEnd state (state.poll host role).2 := by
  rcases poll_cases host role state with
    ⟨exit, -, same⟩ | ⟨exit, system, -, -, same⟩ | ⟨answer, system, -, -, -, same⟩
  · rw [same]
    exact .of_eq rfl
  · rw [same]
    exact adds_learn ..
  · rw [same]
    exact .of_eq rfl

theorem adds_terminate (host : Host σ) (role : Role) (state : Supervision σ) :
    Adds Action.IsEnding state (state.terminate host role) := by
  rcases terminate_cases host role state with
    ⟨exit, -, same⟩ | ⟨exit, system, -, same⟩ | ⟨answer, seen, -, -, -, same⟩
  · exact .of_eq (by rw [same])
  · rw [same]
    exact (adds_learn system role exit state).mono fun _ => .inl
  · rw [same]
    rcases kill_cases host role { state with system := seen } with
      ⟨exit, system, -, killed⟩ | ⟨cause, system, -, killed⟩
    · rw [killed]
      exact ⟨[.killed role, .ended role exit], by simp, by simp [Action.IsEnding, Action.IsEnd]⟩
    · rw [killed]
      exact ⟨[.killed role], rfl, by simp [Action.IsEnding]⟩

theorem adds_terminateBoth (host : Host σ) (state : Supervision σ) :
    Adds Action.IsEnding state (state.terminateBoth host) :=
  (adds_terminate host .producer state).trans (adds_terminate host .consumer _)

theorem terminate_of_known {role : Role} (known : (state.known role).isSome) :
    state.terminate host role = state := by
  obtain ⟨exit, known⟩ := Option.isSome_iff_exists.mp known
  simp only [terminate, poll_of_known known]

theorem terminateBoth_of_known (known : ∀ role, (state.known role).isSome) :
    state.terminateBoth host = state := by
  rw [terminateBoth, terminate_of_known (known .producer), terminate_of_known (known .consumer)]

end Functions

/-- While it is waited for the end of the session nothing is launched and nothing is killed, and
the only phase that is entered is that of the draining. -/
theorem journal_awaitEnd (host : Host σ) (plan : Plan) (state : Supervision σ) :
    ∃ more, (state.awaitEnd host plan).2.journal = state.journal ++ more ∧ launches more = [] ∧
      (phases more = [] ∨ phases more = [.draining]) ∧ ∀ role, .killed role ∉ more := by
  have ends {more : List Action} (all : ∀ action ∈ more, action.IsEnd) :
      ∀ action ∈ more, action.IsEnding := fun action mem => .inl (all action mem)
  have heard {after : Supervision σ} (h : Adds Action.IsEnd state after) :
      ∃ more, after.journal = state.journal ++ more ∧ launches more = [] ∧
        (phases more = [] ∨ phases more = [.draining]) ∧ ∀ role, .killed role ∉ more := by
    obtain ⟨more, journal, all⟩ := h
    exact ⟨more, journal, launches_of_isEnding (ends all), .inl (phases_of_isEnding (ends all)),
      killed_notMem_of_isEnd all⟩
  have first := adds_awaitEither host plan.timeout state
  unfold awaitEnd
  split
  · next exit after same =>
    rw [same] at first
    obtain ⟨more, journal, all⟩ := first
    have drained (limit : Duration) :
        ∃ more, ((after.note (.entered .draining)).awaitConsumer host limit).2.journal =
          state.journal ++ more ∧ launches more = [] ∧
          (phases more = [] ∨ phases more = [.draining]) ∧ ∀ role, .killed role ∉ more := by
      obtain ⟨more', journal', all'⟩ :=
        adds_awaitConsumer host limit (after.note (.entered .draining))
      refine ⟨more ++ [.entered .draining] ++ more', ?_, ?_, .inr ?_, fun role => ?_⟩
      · rw [journal', journal_note, journal]
        simp
      · simp [launches_of_isEnding (ends all), launches_of_isEnding (ends all'), Action.launch?]
      · simp [phases_of_isEnding (ends all), phases_of_isEnding (ends all'), Action.phase?]
      · simp [killed_notMem_of_isEnd all, killed_notMem_of_isEnd all']
    have draining := drained plan.drainGrace
    split <;> simp_all
  · next exit after same =>
    rw [same] at first
    have polled := heard (first.trans (adds_poll host .producer after))
    split <;> simp_all
  · next cause after same =>
    rw [same] at first
    exact heard first
  · next after same =>
    rw [same] at first
    exact heard first

/-- What comes after the launch of the producer. -/
structure Watched (plan : Plan) (slot : Slot) (more : List Action)
    (outcome : Except SessionFault Report × Supervision σ) : Prop where
  launches : launches more = []
  phases : (phases more).Sublist [.draining, .finished]
  finished : ∀ report, outcome.1 = .ok report → ∃ front, more = front ++ [.entered .finished]
  report : ∀ report, outcome.1 = .ok report →
    ∃ ended runTime, report = outcome.2.report plan slot ended runTime
  own : ∀ report, outcome.1 = .ok report →
    report.state = .succeeded ∨ report.state = .failed → ∀ role, .killed role ∉ more

theorem watched_superviseBoth (host : Host σ) (plan : Plan) (slot : Slot) (launched : Duration)
    (state : Supervision σ) :
    ∃ more, (state.superviseBoth host plan slot launched).2.journal =
        state.journal ++ .entered .running :: more ∧
      Watched plan slot more (state.superviseBoth host plan slot launched) := by
  obtain ⟨more, journal, launches, phases, killed⟩ :=
    journal_awaitEnd host plan (state.note (.entered .running))
  cases h : (state.note (.entered .running)).awaitEnd host plan with
  | mk outcome after =>
    rw [h] at journal
    replace journal : after.journal = state.journal ++ .entered .running :: more := by
      simpa using journal
    obtain ⟨more', journal', endings⟩ := adds_terminateBoth host after
    cases outcome with
    | error cause =>
      rw [superviseBoth_of_error plan slot launched h]
      have failed (report : Report) :
          (Except.error (.unwaited cause) : Except SessionFault Report) ≠ .ok report := nofun
      refine ⟨more ++ more', by simp [journal', journal], ⟨?_, ?_, ?_, ?_, ?_⟩⟩
      · simp [launches, launches_of_isEnding endings]
      · rcases phases with none' | draining <;> simp [*, phases_of_isEnding endings]
      · exact fun report same => absurd same (failed report)
      · exact fun report same => absurd same (failed report)
      · exact fun report same => absurd same (failed report)
    | ok ended =>
      -- Ends that both came by themselves leave nothing to be ended by force.
      have closing : ∃ more'', (if ended = .succeeded then after
          else after.terminateBoth host).journal = after.journal ++ more'' ∧
          (∀ action ∈ more'', action.IsEnding) ∧
          (ended = .succeeded ∨ ended = .failed → more'' = []) := by
        by_cases own : ended = .succeeded ∨ ended = .failed
        · rw [terminateBoth_of_known (known_of_awaitEnd h own), ite_self]
          exact ⟨[], by simp, by simp, fun _ => rfl⟩
        · rw [if_neg fun good => own (.inl good)]
          exact ⟨more', journal', endings, fun h => absurd h own⟩
      obtain ⟨more'', journal'', endings', none'⟩ := closing
      rw [superviseBoth_eq_report plan slot launched h]
      generalize (if ended = .succeeded then after else after.terminateBoth host) = last
        at journal''
      refine ⟨more ++ more'' ++ [.entered .finished], by simp [journal'', journal],
        ⟨?_, ?_, ?_, ?_, ?_⟩⟩
      · simp [launches, launches_of_isEnding endings', Action.launch?]
      · rcases phases with none' | draining <;>
          simp [*, phases_of_isEnding endings', Action.phase?]
      · exact fun _ _ => ⟨more ++ more'', rfl⟩
      · rintro report same
        cases same
        exact ⟨ended, _, rfl⟩
      · rintro report same own role
        cases same
        simp [none' own, killed role]

/-- What the journal of a session is that has launched the consumer. -/
def consumerJournal (plan : Plan) (slot : Slot) : List Action :=
  [.entered .consumerStarting, .launched (plan.consumerLaunch slot.id)]

/-- What the journal of a session is that is to launch the producer. -/
def readyJournal (plan : Plan) (slot : Slot) : List Action :=
  consumerJournal plan slot ++ [.foundReady, .entered .producerStarting]

/-- The courses a session can take, with what came of it. -/
inductive Course (host : Host σ) (plan : Plan) (slot : Slot) (begun : σ) :
    Except SessionFault Report × Supervision σ → Prop
  /-- The consumer cannot be launched. -/
  | unlaunched {fault : SessionFault} {last : Supervision σ}
    (journal : last.journal = [.entered .consumerStarting]) :
    Course host plan slot begun (.error fault, last)
  /-- The consumer is not ready in time, or cannot be waited for. -/
  | unready {fault : SessionFault} {last : Supervision σ} {more : List Action}
    (journal : last.journal = consumerJournal plan slot ++ more)
    (endings : ∀ action ∈ more, action.IsEnding) :
    Course host plan slot begun (.error fault, last)
  /-- The consumer ends before it is ready. -/
  | early {exit : Exit} {last : Supervision σ}
    (journal : last.journal =
      consumerJournal plan slot ++ [.ended .consumer exit, .entered .finished]) :
    Course host plan slot begun
      (.ok ⟨slot.id, plan.profiler, .orderViolation, none, some exit, ⟨0⟩⟩, last)
  /-- The producer cannot be launched. -/
  | unfollowed {fault : SessionFault} {last : Supervision σ} {more : List Action}
    (journal : last.journal = readyJournal plan slot ++ more)
    (endings : ∀ action ∈ more, action.IsEnding) :
    Course host plan slot begun (.error fault, last)
  /-- The producer is launched where the consumer was found ready. -/
  | followed {outcome : Except SessionFault Report × Supervision σ} {more : List Action}
    {launched ready both : σ}
    (consumer : host.Starts (plan.consumerLaunch slot.id) begun launched)
    (readied : Readied host plan slot launched ready)
    (producer : host.Starts (plan.producerLaunch slot.id) ready both)
    (journal : outcome.2.journal = readyJournal plan slot ++
      [.launched (plan.producerLaunch slot.id), .entered .running] ++ more)
    (watched : Watched plan slot more outcome) :
    Course host plan slot begun outcome

theorem course_superviseProducer {begun launched ready : σ}
    (consumer : host.Starts (plan.consumerLaunch slot.id) begun launched)
    (readied : Readied host plan slot launched ready) :
    Course host plan slot begun (superviseProducer host plan slot
      ⟨ready, none, none, consumerJournal plan slot ++ [.foundReady]⟩) := by
  unfold superviseProducer
  rcases launch_cases host (plan.producerLaunch slot.id) (note (.entered .producerStarting)
      ⟨ready, none, none, consumerJournal plan slot ++ [.foundReady]⟩) with
    ⟨fault, system, failed, -⟩ | ⟨both, producer, started⟩
  · rw [failed]
    obtain ⟨more, journal, endings⟩ := adds_terminate host .consumer
      { note (.entered .producerStarting) (⟨ready, none, none,
        consumerJournal plan slot ++ [.foundReady]⟩ : Supervision σ) with system := system }
    exact .unfollowed (by rw [journal]; simp [readyJournal]) endings
  · rw [started]
    let state : Supervision σ := ⟨both, none, none,
      readyJournal plan slot ++ [.launched (plan.producerLaunch slot.id)]⟩
    have same : note (.launched (plan.producerLaunch slot.id))
        { note (.entered .producerStarting) (⟨ready, none, none,
          consumerJournal plan slot ++ [.foundReady]⟩ : Supervision σ) with system := both } =
        state := by
      simp [state, note, readyJournal]
    rw [same]
    obtain ⟨more, journal, watched⟩ :=
      watched_superviseBoth host plan slot (host.clock state.system) state
    exact .followed consumer readied producer (by simpa [state] using journal) watched

theorem course_supervise (host : Host σ) (plan : Plan) (slot : Slot) (begun : σ) :
    Course host plan slot begun ((start begun).supervise host plan slot) := by
  unfold supervise
  rcases launch_cases host (plan.consumerLaunch slot.id)
      ((start begun).note (.entered .consumerStarting)) with
    ⟨fault, system, failed, -⟩ | ⟨launched, consumer, started⟩
  · rw [failed]
    exact .unlaunched rfl
  · rw [started]
    let state : Supervision σ := ⟨launched, none, none, consumerJournal plan slot⟩
    have same : note (.launched (plan.consumerLaunch slot.id))
        { (start begun).note (.entered .consumerStarting) with system := launched } = state := rfl
    rw [same]
    dsimp only
    rcases awaitReady_cases host plan slot state with
      ⟨ready, readied, found⟩ | ⟨exit, system, found⟩ | ⟨fault, system, found⟩
    · rw [found]
      exact course_superviseProducer consumer readied
    · rw [found]
      exact .early (by simp [state, learn, note])
    · rw [found]
      obtain ⟨more, journal, endings⟩ := adds_terminate host .consumer
        { state with system := system }
      exact .unready journal endings

theorem mem_launches_iff {launch : Launch} {journal : List Action} :
    launch ∈ launches journal ↔ .launched launch ∈ journal := by
  rw [launches, List.mem_filterMap]
  constructor
  · rintro ⟨action, mem, same⟩
    cases action <;> cases same
    exact mem
  · exact fun mem => ⟨_, mem, rfl⟩

theorem launches_consumerJournal (plan : Plan) (slot : Slot) :
    launches (consumerJournal plan slot) = [plan.consumerLaunch slot.id] := rfl

theorem launches_readyJournal (plan : Plan) (slot : Slot) :
    launches (readyJournal plan slot) = [plan.consumerLaunch slot.id] := rfl

theorem producerLaunch_ne (plan : Plan) (id : Nat) :
    plan.producerLaunch id ≠ plan.consumerLaunch id := by
  intro same
  have role := congrArg Launch.role same
  cases role

namespace Course

variable {begun : σ} {outcome : Except SessionFault Report × Supervision σ}

theorem launches_isPrefixOf (h : Course host plan slot begun outcome) :
    launches outcome.2.journal <+: [plan.consumerLaunch slot.id, plan.producerLaunch slot.id] := by
  cases h with
  | unlaunched journal => simp [journal, Action.launch?]
  | unready journal endings =>
    simp [journal, launches_consumerJournal, launches_of_isEnding endings]
  | early journal => simp [journal, launches_consumerJournal, Action.launch?]
  | unfollowed journal endings =>
    simp [journal, launches_readyJournal, launches_of_isEnding endings]
  | followed _ _ _ journal watched =>
    simp [journal, launches_readyJournal, watched.launches, Action.launch?]

theorem phases_pairwise (h : Course host plan slot begun outcome) :
    (.init :: phases outcome.2.journal).Pairwise fun a b => a.rank < b.rank := by
  cases h with
  | unlaunched journal => simp [journal, Action.phase?, Phase.rank]
  | unready journal endings =>
    simp [journal, consumerJournal, phases_of_isEnding endings, Action.phase?, Phase.rank]
  | early journal => simp [journal, consumerJournal, Action.phase?, Phase.rank]
  | unfollowed journal endings =>
    simp [journal, readyJournal, consumerJournal, phases_of_isEnding endings, Action.phase?,
      Phase.rank]
  | followed _ _ _ journal watched =>
    have whole : (.init :: phases outcome.2.journal).Sublist Phase.all := by
      simpa [journal, readyJournal, consumerJournal, Action.phase?, Phase.all]
        using watched.phases
    exact List.Pairwise.sublist whole (by decide)

theorem ready_of_launched (h : Course host plan slot begun outcome) {before after : List Action}
    (journal : outcome.2.journal = before ++ .launched (plan.producerLaunch slot.id) :: after) :
    before = readyJournal plan slot ∧ ∃ launched ready both,
      host.Starts (plan.consumerLaunch slot.id) begun launched ∧
      Readied host plan slot launched ready ∧
      host.Starts (plan.producerLaunch slot.id) ready both := by
  have mem : plan.producerLaunch slot.id ∈ launches outcome.2.journal :=
    mem_launches_iff.mpr (by simp [journal])
  have ne := producerLaunch_ne plan slot.id
  cases h with
  | unlaunched journal' => simp [journal', Action.launch?] at mem
  | unready journal' endings =>
    simp [journal', launches_consumerJournal, launches_of_isEnding endings, ne] at mem
  | early journal' => simp [journal', launches_consumerJournal, Action.launch?, ne] at mem
  | unfollowed journal' endings =>
    simp [journal', launches_readyJournal, launches_of_isEnding endings, ne] at mem
  | followed consumer readied producer journal' watched =>
    refine ⟨?_, _, _, _, consumer, readied, producer⟩
    rw [journal', List.append_assoc, List.cons_append] at journal
    refine ((List.append_cons_inj_of_notMem ?_ ?_).mp journal).1.symm
    · rw [← mem_launches_iff, launches_readyJournal, List.mem_singleton]
      exact ne
    · rw [← mem_launches_iff]
      simp [watched.launches, Action.launch?]

end Course

/-- What a report says of the session with a journal on a host. -/
structure Reported (host : Host σ) (begun : σ) (plan : Plan) (slot : Slot)
    (journal : List Action) (report : Report) : Prop where
  channel : report.channel = slot.id
  finished : (phases journal).getLast? = some .finished
  consumer : ∃ exit, report.consumer = some exit ∧ .ended .consumer exit ∈ journal
  producer : ∀ exit, report.producer = some exit → .ended .producer exit ∈ journal
  producer_eq_none_iff : report.producer = none ↔
    plan.producerLaunch slot.id ∉ launches journal
  early : report.producer = none → report.state = .orderViolation ∧ report.runTime = ⟨0⟩
  /-- Both processes of a session that succeeds or fails have ended by themselves, as the host has
  told. -/
  own : report.state = .succeeded ∨ report.state = .failed →
    (∀ role, .killed role ∉ journal) ∧
    (∃ exit, report.producer = some exit ∧ host.Told begun .producer exit journal) ∧
    ∃ exit, report.consumer = some exit ∧ host.Told begun .consumer exit journal
  result_iff : (∃ good, report.result = .ok good) ↔ report.state = .succeeded

end Supervision

theorem Report.exists_result_iff (report : Report) :
    (∃ good, report.result = .ok good) ↔ report.state = .succeeded := by
  unfold Report.result
  cases report.state <;> simp

/-- Nothing is lost where a process can be reaped although a look at it has failed. -/
theorem Host.Reaps.not_loses {σ : Type} {host : Host σ} {begun : σ} {role : Role}
    {state : Supervision σ} (reaps : host.Reaps begun) (orderly : state.Orderly) :
    ¬ host.Loses begun role state.journal := by
  rintro ⟨before, after, system, seen, last, cause, cause', split, borne, looked, failed⟩
  obtain ⟨launched, -⟩ := orderly.killed_unknown before role after split
  obtain ⟨exit, last', reaped⟩ := reaps.unseen cause before system role seen borne launched looked
  cases reaped.symm.trans failed

namespace Supervision

variable {σ : Type} {host : Host σ} {plan : Plan} {slot : Slot}

/-- The end of what was launched is known afterwards, and was noted. -/
theorem Tidy.exists_known {begun : σ} {state : Supervision σ} (tidy : Tidy host begun state)
    (reaps : host.Reaps begun) {role : Role} (launched : WasLaunched role state.journal) :
    ∃ exit, state.known role = some exit ∧ .ended role exit ∈ state.journal := by
  obtain ⟨launch, rfl, there⟩ := launched
  rcases tidy.settled launch there with known | lost
  · obtain ⟨exit, known⟩ := Option.isSome_iff_exists.mp known
    exact ⟨exit, known, tidy.orderly.noted _ _ known⟩
  · exact absurd lost (reaps.not_loses tidy.orderly)

theorem Course.reported {begun : σ} {outcome : Except SessionFault Report × Supervision σ}
    (h : Course host plan slot begun outcome) (tidy : Tidy host begun outcome.2)
    (reaps : host.Reaps begun) {report : Report} (ok : outcome.1 = .ok report) :
    Reported host begun plan slot (outcome.2.journal ++ [.released slot]) report := by
  have ne := producerLaunch_ne plan slot.id
  have result := report.exists_result_iff
  cases h with
  | unlaunched _ => cases ok
  | unready _ _ => cases ok
  | unfollowed _ _ => cases ok
  | early journal =>
    cases ok
    refine ⟨rfl, ?_, ⟨_, rfl, ?_⟩, nofun, iff_of_true rfl ?_, fun _ => ⟨rfl, rfl⟩, nofun, result⟩
    · simp [journal, Action.phase?]
    · simp [journal]
    · simp [journal, launches_consumerJournal, Action.launch?, ne]
  | followed consumer readied producer journal watched =>
    obtain ⟨ended, runTime, rfl⟩ := watched.report report ok
    obtain ⟨front, last⟩ := watched.finished _ ok
    have launched : WasLaunched .consumer outcome.2.journal :=
      ⟨plan.consumerLaunch slot.id, rfl, by simp [journal, readyJournal, consumerJournal]⟩
    have launched' : WasLaunched .producer outcome.2.journal :=
      ⟨plan.producerLaunch slot.id, rfl, by simp [journal]⟩
    obtain ⟨exit, known, there⟩ := tidy.exists_known reaps launched
    obtain ⟨exit', known', there'⟩ := tidy.exists_known reaps launched'
    have some' : outcome.2.producer = some exit' := known'
    refine ⟨rfl, ?_, ⟨exit, known, List.mem_append_left _ there⟩, ?_, ?_, ?_, ?_, result⟩
    · simp [journal, last, Action.phase?, List.getLast?_cons]
    · intro exit'' same
      cases some'.symm.trans same
      exact List.mem_append_left _ there'
    · refine iff_of_false (by simp [report, some']) ?_
      simp [journal, Action.launch?]
    · intro none'
      cases some'.symm.trans none'
    · intro own
      have spared (role : Role) : .killed role ∉ outcome.2.journal := by
        simp [journal, readyJournal, consumerJournal, watched.own _ ok own role]
      exact ⟨by simpa using spared,
        ⟨exit', known', (tidy.borne.told there' (spared .producer)).append _⟩,
        ⟨exit, known, (tidy.borne.told there (spared .consumer)).append _⟩⟩

/-- The order of a session that has a slot, and the shape of its report. -/
structure Sequenced (host : Host σ) (plan : Plan) (slot : Slot) (begun : σ)
    (outcome : Outcome σ) : Prop where
  /-- The slot is given up at the end, and is held until then; the host bears out what was done
  before. -/
  held : ∃ journal last, outcome.journal = journal ++ [.released slot] ∧
    (∀ other, .released other ∉ journal) ∧ host.BearsOut begun journal last ∧
    outcome.system = host.withFiles (slot.release (host.files last)).1 last
  launches : launches outcome.journal <+:
    [plan.consumerLaunch slot.id, plan.producerLaunch slot.id]
  /-- Where the producer is launched, the consumer was found ready and its end is not known. -/
  ready : ∀ before after,
    outcome.journal = before ++ .launched (plan.producerLaunch slot.id) :: after →
    .foundReady ∈ before ∧ (∀ exit, .ended .consumer exit ∉ before) ∧
    ∃ launched ready both,
      host.Starts (plan.consumerLaunch slot.id) begun launched ∧
      Readied host plan slot launched ready ∧
      host.Starts (plan.producerLaunch slot.id) ready both
  phases : (.init :: phases outcome.journal).Pairwise fun a b => a.rank < b.rank
  reported : ∀ report, outcome.result = .ok report →
    Reported host begun plan slot outcome.journal report

/-- Two processes that end well, the consumer two moments after the producer. -/
def singleTimeline : Timeline :=
  ⟨freeFiles, 0, some ⟨6, .ofCode 0⟩, some ⟨8, .ofCode 0⟩⟩

end Supervision

end ProfilingSession
