import ProfilingSession.Proofs.Session.Deeds
import ProfilingSession.Session.Timeline

/-!
# What a session leaves behind

Whatever was launched has ended, and its end is known, before the channel is given up; giving it
up is tried once and is the last thing done; and a process is killed only where a look at it has
just not told its end.

`Orderly` is what every deed and every launch keeps of a journal, and `Settled` says that whatever
was launched is over. Every way out of `supervise` is settled as long as a process that a look has
just found alive can be killed and reaped. A look that fails finds nothing: the process is killed
all the same, it may have ended by then, and if it cannot be reaped either it is lost.
-/

namespace ProfilingSession

variable {σ : Type}

namespace Supervision

/-- The end of a process is known, or a look at it has failed and it could not be reaped. -/
def IsOver (host : Host σ) (begun : σ) (role : Role) (state : Supervision σ) : Prop :=
  (state.known role).isSome ∨ host.Loses begun role state.journal

/-- Every process that was launched is over. -/
def Settled (host : Host σ) (begun : σ) (state : Supervision σ) : Prop :=
  ∀ launch, .launched launch ∈ state.journal → state.IsOver host begun launch.role

/-- What a session keeps of its journal. -/
structure Orderly (state : Supervision σ) : Prop where
  /-- The channel is not given up. -/
  unreleased : ∀ slot, .released slot ∉ state.journal
  noted : ∀ role exit, state.known role = some exit → .ended role exit ∈ state.journal
  known_of_ended : ∀ role exit, .ended role exit ∈ state.journal → (state.known role).isSome
  /-- Nothing ends before it is launched. -/
  launched_first : ∀ before launch after, state.journal = before ++ .launched launch :: after →
    ∀ exit, .ended launch.role exit ∉ before
  /-- What was launched is killed, unless it is known to have ended. -/
  killed_unknown : ∀ before role after, state.journal = before ++ .killed role :: after →
    WasLaunched role before ∧ ∀ exit, .ended role exit ∉ before

variable {host : Host σ} {begun : σ} {state after : Supervision σ} {role : Role}

theorem Orderly.not_ended (orderly : state.Orderly) (unknown : state.known role = none)
    (exit : Exit) : .ended role exit ∉ state.journal := by
  intro there
  have known := orderly.known_of_ended role exit there
  simp [unknown] at known

/-- A journal stays orderly with an action that is allowed in its state. -/
theorem Orderly.add (orderly : state.Orderly) {action : Action}
    (added : after.journal = state.journal ++ [action])
    (unreleased : ∀ slot, action ≠ .released slot)
    (noted : ∀ role exit, after.known role = some exit →
      state.known role = some exit ∨ action = .ended role exit)
    (ended : ∀ role, (state.known role).isSome ∨ (∃ exit, action = .ended role exit) →
      (after.known role).isSome)
    (launched : ∀ launch, action = .launched launch → state.known launch.role = none)
    (killed : ∀ role, action = .killed role →
      WasLaunched role state.journal ∧ state.known role = none) :
    after.Orderly where
  unreleased slot := by
    rw [added]
    simp [orderly.unreleased slot, (unreleased slot).symm]
  noted role exit known := by
    rw [added]
    rcases noted role exit known with earlier | rfl
    · exact List.mem_append_left _ (orderly.noted role exit earlier)
    · simp
  known_of_ended role exit there := by
    rw [added] at there
    rcases List.mem_append.mp there with earlier | last
    · exact ended role (.inl (orderly.known_of_ended role exit earlier))
    · exact ended role (.inr ⟨exit, (List.mem_singleton.mp last).symm⟩)
  launched_first before launch rest h exit := by
    rw [added] at h
    rcases append_singleton_eq_append_cons h with ⟨rfl, same⟩ | ⟨more, earlier⟩
    · exact orderly.not_ended (launched launch same.symm) exit
    · exact orderly.launched_first before launch more earlier exit
  killed_unknown before role rest h := by
    rw [added] at h
    rcases append_singleton_eq_append_cons h with ⟨rfl, same⟩ | ⟨more, earlier⟩
    · obtain ⟨there, unknown⟩ := killed role same.symm
      exact ⟨there, orderly.not_ended unknown⟩
    · exact orderly.killed_unknown before role more earlier

theorem Orderly.withSystem (orderly : state.Orderly) (system : σ) :
    Orderly { state with system := system } :=
  ⟨orderly.unreleased, fun role => by simpa using orderly.noted role,
    fun role => by simpa using orderly.known_of_ended role, orderly.launched_first,
    orderly.killed_unknown⟩

theorem Orderly.learn (orderly : state.Orderly) (role : Role) (exit : Exit) :
    (state.learn role exit).Orderly := by
  refine orderly.add (journal_learn ..) (by simp) (fun other => ?_) (fun other => ?_) (by simp)
    (by simp)
  all_goals
    by_cases same : other = role
    · simp_all
    · simp_all [known_learn_of_ne same, Ne.symm same]

theorem Orderly.killed (orderly : state.Orderly) (launched : WasLaunched role state.journal)
    (unknown : state.known role = none) : (state.note (.killed role)).Orderly := by
  refine orderly.add rfl (by simp) (by simp) (by simp) (by simp) fun other same => ?_
  cases same
  exact ⟨launched, unknown⟩

/-- One deed keeps a journal orderly. -/
theorem Orderly.deed (orderly : state.Orderly) (h : Deed host state after) : after.Orderly := by
  cases h with
  | entered phase => exact orderly.add rfl (by simp) (by simp) (by simp) (by simp) (by simp)
  | foundReady => exact orderly.add rfl (by simp) (by simp) (by simp) (by simp) (by simp)
  | unlaunched => exact orderly.withSystem _
  | silent => exact orderly.withSystem _
  | learned => exact (orderly.withSystem _).learn ..
  | @killed _ system role _ exit launched unknown =>
    exact ((orderly.withSystem system).killed launched (by simpa using unknown)).learn role exit
  | @unreaped _ system _ _ _ launched unknown =>
    exact (orderly.withSystem system).killed launched (by simpa using unknown)

theorem Orderly.deeds (orderly : state.Orderly) (h : Deeds host state after) :
    after.Orderly := by
  induction h with
  | refl => exact orderly
  | tail _ deed ih => exact ih.deed deed

theorem Orderly.launched (orderly : state.Orderly) {launch : Launch}
    (unknown : state.known launch.role = none) (system : σ) :
    (note (.launched launch) { state with system := system }).Orderly := by
  refine (orderly.withSystem system).add rfl (by simp) (by simp) (by simp)
    (fun other same => ?_) (by simp)
  cases same
  simpa using unknown

theorem orderly_start (system : σ) : (start system).Orderly where
  unreleased := by simp [start]
  noted role := by cases role <;> simp [start, known]
  known_of_ended := by simp [start]
  launched_first := by simp [start]
  killed_unknown := by simp [start]

/-- What is over stays over. -/
theorem IsOver.deeds (h : state.IsOver host begun role) (deeds : Deeds host state after) :
    after.IsOver host begun role := by
  rcases h with known | lost
  · exact .inl (deeds.isSome_known known)
  · obtain ⟨more, journal, -⟩ := deeds.journal
    exact .inr (journal ▸ lost.append more)

/-- A process is over once it was terminated. -/
theorem isOver_terminate (reaps : host.ReapsAfter begun (.ok none))
    (borne : host.BearsOut begun state.journal state.system)
    (launched : WasLaunched role state.journal) :
    (state.terminate host role).IsOver host begun role := by
  rcases terminate_cases host role state with ⟨exit, known, same⟩ |
    ⟨exit, system, -, same⟩ | ⟨answer, seen, -, looked, silent, same⟩
  · exact .inl (by simp [same, known])
  · exact .inl (by simp [same])
  rw [same]
  rcases kill_cases host role { state with system := seen } with
    ⟨exit, last, -, killed⟩ | ⟨cause', last, failed, killed⟩
  · exact .inl (by simp [killed])
  · match answer with
    | .ok (some exit) => exact absurd rfl (silent exit)
    | .ok none =>
      obtain ⟨exit, last', reaped⟩ := reaps _ _ role seen borne launched looked
      cases reaped.symm.trans failed
    | .error cause =>
      exact .inr ⟨state.journal, [], _, seen, last, cause, cause', by simp [killed], borne,
        looked, failed⟩

theorem isOver_terminateBoth (reaps : host.ReapsAfter begun (.ok none))
    (borne : host.BearsOut begun state.journal state.system)
    (producer : WasLaunched .producer state.journal)
    (consumer : WasLaunched .consumer state.journal) (role : Role) :
    (state.terminateBoth host).IsOver host begun role := by
  have first : Deeds host state (state.terminate host .producer) := deeds_terminate host producer
  have second := deeds_terminate host (first.wasLaunched consumer)
  cases role with
  | producer => exact (isOver_terminate reaps borne producer).deeds second
  | consumer => exact isOver_terminate reaps (first.bearsOut borne) (first.wasLaunched consumer)

/-- A session that succeeds does so by the ends that are known. -/
theorem verdict_of_awaitEnd {plan : Plan} {after : Supervision σ}
    (h : state.awaitEnd host plan = (.ok .succeeded, after)) : after.verdict = .succeeded := by
  have verdict {ended : Supervision σ}
      (same : (Except.ok ended.verdict, ended) =
        ((.ok .succeeded, after) : Except FileTree.Cause SessionState × Supervision σ)) :
      after.verdict = .succeeded := by
    obtain ⟨good, rfl⟩ := Prod.mk.inj same
    exact Except.ok.inj good
  unfold awaitEnd at h
  split at h
  · split at h
    · exact verdict h
    · simp at h
    · simp at h
  · split at h
    · exact verdict h
    · simp at h
    · simp at h
  · simp at h
  · simp at h

/-- A session succeeds or fails only if both processes were seen to have ended. -/
theorem known_of_awaitEnd {plan : Plan} {ended : SessionState}
    (h : state.awaitEnd host plan = (.ok ended, after))
    (own : ended = .succeeded ∨ ended = .failed) (role : Role) : (after.known role).isSome := by
  unfold awaitEnd at h
  rcases awaitEither_cases host plan.timeout state with
    ⟨first, exit, system, -, same⟩ | ⟨wake, system, -, silent, same⟩
  · rw [same] at h
    cases first with
    | producer =>
      rcases awaitConsumer_cases host plan.drainGrace (note (.entered .draining)
          (learn .producer exit { state with system := system })) with
        ⟨exit', drained, -, same'⟩ | ⟨exit' | cause | _, drained, -, silent, same'⟩
      · simp only [same'] at h
        obtain ⟨-, rfl⟩ := Prod.mk.inj h
        cases role <;> rfl
      · exact absurd rfl (silent exit')
      · simp [same'] at h
      · simp only [same', Prod.mk.injEq, Except.ok.injEq] at h
        simp [← h.1] at own
    | consumer =>
      rcases poll_cases host .producer (learn .consumer exit { state with system := system }) with
        ⟨exit', known, same'⟩ | ⟨exit', polled, -, -, same'⟩ |
        ⟨cause | _ | exit', polled, -, -, silent, same'⟩
      · simp only [same'] at h
        obtain ⟨-, rfl⟩ := Prod.mk.inj h
        cases role <;> simp [known]
      · simp only [same'] at h
        obtain ⟨-, rfl⟩ := Prod.mk.inj h
        cases role <;> rfl
      · simp [same'] at h
      · simp only [same', Prod.mk.injEq, Except.ok.injEq] at h
        simp [← h.1] at own
      · exact absurd rfl (silent exit')
  · rw [same] at h
    match wake with
    | .came what => exact absurd rfl (silent what)
    | .failed cause => simp at h
    | .elapsed =>
      simp only [Prod.mk.injEq, Except.ok.injEq] at h
      simp [← h.1] at own

/-- Supervision of both processes ends with both over. -/
theorem isOver_superviseBoth (reaps : host.ReapsAfter begun (.ok none)) (plan : Plan)
    (slot : Slot) (launched : Duration) (borne : host.BearsOut begun state.journal state.system)
    (producer : WasLaunched .producer state.journal)
    (consumer : WasLaunched .consumer state.journal) (role : Role) :
    (state.superviseBoth host plan slot launched).2.IsOver host begun role := by
  have running : Deeds host state (state.note (.entered .running)) := .single (.entered ..)
  have ended : Deeds host state _ := running.trans (deeds_awaitEnd host plan _)
  cases h : (state.note (.entered .running)).awaitEnd host plan with
  | mk outcome after =>
    rw [h] at ended
    have terminated := isOver_terminateBoth reaps (ended.bearsOut borne)
      (ended.wasLaunched producer) (ended.wasLaunched consumer) role
    cases outcome with
    | error cause =>
      rw [superviseBoth_of_error plan slot launched h]
      exact terminated
    | ok outcome =>
      obtain ⟨report, -, same⟩ := superviseBoth_of_ok plan slot launched h
      rw [same]
      split
      · next good =>
        subst good
        exact .inl (by simpa using known_of_awaitEnd h (.inl rfl) role)
      · exact terminated.deeds (.single (.entered ..))

def OnlyLaunched (role : Role) (journal : List Action) : Prop :=
  ∀ launch, .launched launch ∈ journal → launch.role = role

/-- A session that has launched its consumer only is settled once that one is over. -/
theorem settled_of_onlyLaunched (only : OnlyLaunched role state.journal)
    (h : Deeds host state after) (ended : after.IsOver host begun role) :
    after.Settled host begun := by
  intro launch there
  rw [only launch ((h.launched_mem_iff launch).mp there)]
  exact ended

/-- The host bears out an orderly journal, and nothing that was launched runs. -/
structure Tidy (host : Host σ) (begun : σ) (state : Supervision σ) : Prop where
  borne : host.BearsOut begun state.journal state.system
  orderly : state.Orderly
  settled : state.Settled host begun

theorem tidy_superviseProducer (reaps : host.ReapsAfter begun (.ok none)) (plan : Plan)
    (slot : Slot) (borne : host.BearsOut begun state.journal state.system)
    (orderly : state.Orderly) (consumer : WasLaunched .consumer state.journal)
    (only : OnlyLaunched .consumer state.journal) (unknown : state.known .producer = none) :
    Tidy host begun (state.superviseProducer host plan slot).2 := by
  have starting : Deeds host state (state.note (.entered .producerStarting)) :=
    .single (.entered ..)
  unfold superviseProducer
  rcases launch_cases host (plan.producerLaunch slot.id)
      (state.note (.entered .producerStarting)) with
    ⟨fault, system, failed, waited⟩ | ⟨system, starts, launched⟩
  · have failing : Deeds host state _ := starting.trans waited
    have consumer' := failing.wasLaunched consumer
    have ended : Deeds host state _ := failing.trans (deeds_terminate host consumer')
    rw [failed]
    exact ⟨ended.bearsOut borne, orderly.deeds ended, settled_of_onlyLaunched only ended
      (isOver_terminate reaps (failing.bearsOut borne) consumer')⟩
  · rw [launched]
    obtain ⟨both, both_eq⟩ : ∃ both, both = note (.launched (plan.producerLaunch slot.id))
      { state.note (.entered .producerStarting) with system := system } := ⟨_, rfl⟩
    rw [← both_eq]
    have borne' : host.BearsOut begun both.journal both.system :=
      both_eq ▸ (starting.bearsOut borne).launched starts
    have orderly' : both.Orderly :=
      both_eq ▸ (orderly.deeds starting).launched ((known_note ..).trans unknown) system
    have producer : WasLaunched .producer both.journal :=
      ⟨plan.producerLaunch slot.id, rfl, by simp [both_eq]⟩
    have consumer' : WasLaunched .consumer both.journal := by
      obtain ⟨launch, role, there⟩ := consumer
      exact ⟨launch, role, by simp [both_eq, there]⟩
    have watched := deeds_superviseBoth host plan slot (host.clock both.system) producer consumer'
    exact ⟨watched.bearsOut borne', orderly'.deeds watched, fun launch _ =>
      isOver_superviseBoth reaps plan slot _ borne' producer consumer' launch.role⟩

/-- Every way out of a session leaves an orderly journal, and nothing that runs. -/
theorem tidy_supervise (reaps : host.ReapsAfter begun (.ok none)) (plan : Plan) (slot : Slot) :
    Tidy host begun ((start begun).supervise host plan slot).2 := by
  have starting : Deeds host (start begun) ((start begun).note (.entered .consumerStarting)) :=
    .single (.entered ..)
  have begins : host.BearsOut begun (start begun).journal (start begun).system := .nothing
  unfold supervise
  rcases launch_cases host (plan.consumerLaunch slot.id)
      ((start begun).note (.entered .consumerStarting)) with
    ⟨fault, system, failed, waited⟩ | ⟨system, starts, launched⟩
  · have failing : Deeds host (start begun) _ := starting.trans waited
    rw [failed]
    refine ⟨failing.bearsOut begins, (orderly_start begun).deeds failing, fun launch there => ?_⟩
    simpa [start] using (failing.launched_mem_iff launch).mp there
  · rw [launched]
    dsimp only
    obtain ⟨alone, alone_eq⟩ : ∃ alone, alone = note (.launched (plan.consumerLaunch slot.id))
      { (start begun).note (.entered .consumerStarting) with system := system } := ⟨_, rfl⟩
    rw [← alone_eq]
    have borne : host.BearsOut begun alone.journal alone.system :=
      alone_eq ▸ (starting.bearsOut begins).launched starts
    have orderly : alone.Orderly :=
      alone_eq ▸ ((orderly_start begun).deeds starting).launched rfl system
    have consumer : WasLaunched .consumer alone.journal :=
      ⟨plan.consumerLaunch slot.id, rfl, by simp [alone_eq]⟩
    have only : OnlyLaunched .consumer alone.journal := by
      intro launch there
      obtain rfl : launch = plan.consumerLaunch slot.id := by
        simpa [alone_eq, start] using there
      rfl
    have waited := deeds_awaitReady host plan slot alone
    cases found : alone.awaitReady host plan slot with
    | mk outcome after =>
      rw [found] at waited
      match outcome with
      | .error fault =>
        have consumer' := waited.wasLaunched consumer
        have ended : Deeds host alone _ := waited.trans (deeds_terminate host consumer')
        exact ⟨ended.bearsOut borne, orderly.deeds ended, settled_of_onlyLaunched only ended
          (isOver_terminate reaps (waited.bearsOut borne) consumer')⟩
      | .ok (.exited exit) =>
        have ended : Deeds host alone _ := waited.tail (.entered after .finished)
        refine ⟨ended.bearsOut borne, orderly.deeds ended,
          settled_of_onlyLaunched only ended (.inl ?_)⟩
        rcases known_awaitReady found with ⟨ready, -⟩ | ⟨exit, -, known⟩
        · simp at ready
        · simp [known]
      | .ok .ready =>
        have unknown : after.known .producer = none := by
          rcases known_awaitReady found with ⟨-, ready⟩ | ⟨exit, other, -⟩
          · rw [ready, alone_eq]
            rfl
          · cases other
        exact tidy_superviseProducer reaps plan slot (waited.bearsOut borne)
          (orderly.deeds waited) (waited.wasLaunched consumer)
          (fun launch there => only launch ((waited.launched_mem_iff launch).mp there)) unknown

/-- The actions of a session that keeps its channel as long as anything runs. -/
structure Clean (host : Host σ) (begun : σ) (journal : List Action) : Prop where
  unreleased : ∀ slot, .released slot ∉ journal
  /-- Everything that was launched has ended afterwards, or was lost. -/
  reaped : ∀ before launch after, journal = before ++ .launched launch :: after →
    (∃ exit, .ended launch.role exit ∈ after) ∨ host.Loses begun launch.role journal
  /-- Only what was launched and is not known to have ended is killed, after a look that has found
  it alive or has failed. -/
  killed : ∀ before role after, journal = before ++ .killed role :: after →
    WasLaunched role before ∧ (∀ exit, .ended role exit ∉ before) ∧
    ∃ system seen, host.BearsOut begun before system ∧
      (host.poll role system = (.ok none, seen) ∨
        ∃ cause, host.poll role system = (.error cause, seen))

theorem Tidy.clean (tidy : Tidy host begun state) : Clean host begun state.journal where
  unreleased := tidy.orderly.unreleased
  reaped before launch after h := by
    refine (tidy.settled launch (by simp [h])).imp_left fun known => ?_
    obtain ⟨exit, known⟩ := Option.isSome_iff_exists.mp known
    have there := tidy.orderly.noted launch.role exit known
    have notBefore := tidy.orderly.launched_first before launch after h exit
    exact ⟨exit, by simpa [h, notBefore] using there⟩
  killed before role after h := by
    obtain ⟨launched, unknown⟩ := tidy.orderly.killed_unknown before role after h
    obtain ⟨system, answer, seen, borne, looked, silent⟩ := tidy.borne.exists_look h
    refine ⟨launched, unknown, system, seen, borne, ?_⟩
    match answer with
    | .ok none => exact .inl looked
    | .ok (some exit) => exact absurd rfl (silent exit)
    | .error cause => exact .inr ⟨cause, looked⟩

/-- A session with a slot is what `supervise` does from there on, and the release. -/
theorem run_of_reserved (palette : Palette) (owner : Nat) (candidates : Nat → Nat) (plan : Plan)
    (system : σ) {slot : Slot} {files : FileTree}
    (reserved : plan.channels.reserve owner candidates (host.files system) = .ok (slot, files)) :
    let supervised := (start (host.withFiles files system)).supervise host plan slot
    run host palette owner candidates plan system =
      ⟨supervised.1, Status.info palette "Channel" ("running with channel id " ++ toString slot.id),
        supervised.2.journal ++ [.released slot],
        host.withFiles (slot.release (host.files supervised.2.system)).1 supervised.2.system⟩ := by
  simp only [run, reserved, release, journal_note, system_note]

/-- A session that has reserved a slot gives it up once, as the last thing it does, and by then
everything that was launched has ended and its end is known, unless a look at it has failed and,
after it was killed all the same, it could not be waited for. Only what was launched and is not
known to have ended is killed, and only after a look that has not told its end. -/
theorem run_clean (palette : Palette) (owner : Nat) (candidates : Nat → Nat) (plan : Plan)
    (system : σ) {slot : Slot} {files : FileTree}
    (reserved : plan.channels.reserve owner candidates (host.files system) = .ok (slot, files))
    (reaps : host.ReapsAfter (host.withFiles files system) (.ok none)) :
    ∃ last : Supervision σ,
      (start (host.withFiles files system)).supervise host plan slot =
        ((run host palette owner candidates plan system).result, last) ∧
      (run host palette owner candidates plan system).journal =
        last.journal ++ [.released slot] ∧
      (run host palette owner candidates plan system).system =
        host.withFiles (slot.release (host.files last.system)).1 last.system ∧
      host.BearsOut (host.withFiles files system) last.journal last.system ∧
      Clean host (host.withFiles files system) last.journal := by
  have tidy := tidy_supervise reaps plan slot
  rw [run_of_reserved palette owner candidates plan system reserved]
  exact ⟨_, rfl, rfl, rfl, tidy.borne, tidy.clean⟩

/-- On a timeline a process ends when it is killed. -/
theorem reaps_timeline (begun : Timeline) : Timeline.host.Reaps begun where
  alive _ _ role _ _ _ _ := by cases role <;> exact ⟨_, _, rfl⟩
  unseen _ _ _ role _ _ _ _ := by cases role <;> exact ⟨_, _, rfl⟩

def singleChannel : Channels := ⟨"shm", 0, 0, 1⟩

def freeFiles : FileTree := ⟨.directory 0o755 [("shm", .empty)], []⟩

/-- The directory of the channel, with the marker of process 7. -/
def heldFiles : FileTree :=
  ⟨.directory 0o755 [("shm", .directory 0o755
    [("slamp_queue_0.lock", .file 0o644 "7\n".toUTF8)])], []⟩

theorem reserve_singleChannel :
    singleChannel.reserve 7 id freeFiles = .ok (singleChannel.slot 0, heldFiles) := by
  rfl

/-- A plan with that channel that gives the consumer five moments to start. -/
def singlePlan : Plan :=
  { Plan.standard .dependence "consumer" "producer" with
    channels := singleChannel, readiness := .warmUp ⟨5⟩ }

/-- A consumer that never makes its segment and never ends is killed, and its channel given up. -/
theorem run_clean_of_idle_consumer :
    let plan : Plan := { singlePlan with readiness := .published (.ofSeconds 30) }
    let timeline : Timeline := ⟨freeFiles, 0, none, none⟩
    ∃ slot files,
      plan.channels.reserve 7 id (Timeline.host.files timeline) = .ok (slot, files) ∧
      Timeline.host.ReapsAfter (Timeline.host.withFiles files timeline) (.ok none) ∧
      ∃ last : Supervision Timeline,
        (run Timeline.host .plain 7 id plan timeline).journal = last.journal ++ [.released slot] ∧
        Clean Timeline.host (Timeline.host.withFiles files timeline) last.journal := by
  intro plan timeline
  have reserved : plan.channels.reserve 7 id (Timeline.host.files timeline) =
      .ok (singleChannel.slot 0, heldFiles) := reserve_singleChannel
  have reaps := (reaps_timeline (Timeline.host.withFiles heldFiles timeline)).alive
  obtain ⟨last, -, journal, -, -, clean⟩ := run_clean .plain 7 id plan timeline reserved reaps
  exact ⟨_, _, reserved, reaps, last, journal, clean⟩

/-- A timeline on which a process that ends by itself is gone at once, so that waits and looks that
would have told its end fail, as they do where the signals of children are ignored. -/
def strayHost : Host Timeline :=
  { Timeline.host with
    awaitConsumer := fun limit timeline =>
      match Timeline.host.awaitConsumer limit timeline with
      | (.came _, later) => (.failed .noChild, later)
      | answer => answer
    awaitEither := fun limit timeline =>
      match Timeline.host.awaitEither limit timeline with
      | (.came _, later) => (.failed .noChild, later)
      | answer => answer
    poll := fun role timeline =>
      (if (timeline.poll role).isSome then .error .noChild else .ok none, timeline)
    kill := fun role timeline =>
      if (timeline.poll role).isSome then timeline else timeline.kill role
    reap := fun role timeline =>
      match timeline.poll role with
      | some exit =>
        (if exit.code.isNone then .ok exit else .error .noChild, timeline)
      | none => (.error .noChild, timeline) }

/-- What is found alive on it can be killed and reaped. -/
theorem reapsAfter_strayHost (begun : Timeline) : strayHost.ReapsAfter begun (.ok none) := by
  rintro journal timeline role seen - - looked
  obtain ⟨answered, rfl⟩ := Prod.mk.inj looked
  have alive : (timeline.poll role).isSome = false := by
    cases ended : (timeline.poll role).isSome with
    | false => rfl
    | true => simp [ended] at answered
  refine ⟨.ofSignal 9, timeline.kill role, ?_⟩
  have killed : strayHost.kill role timeline = timeline.kill role := by simp [strayHost, alive]
  have ended : (timeline.kill role).poll role = some (.ofSignal 9) := by
    cases role <;> simp [Timeline.kill, Timeline.poll, Timeline.ending, Option.filter]
  rw [killed]
  simp [strayHost, ended, Exit.ofSignal]

/-- A consumer that has ended with code zero is killed because a look at it fails, and it is not
reaped before the channel is given up, although everything found alive can be killed and reaped. -/
theorem run_kills_ended :
    let timeline : Timeline := ⟨freeFiles, 0, none, some ⟨3, .ofCode 0⟩⟩
    ∃ slot files, singlePlan.channels.reserve 7 id (strayHost.files timeline) = .ok (slot, files) ∧
      strayHost.ReapsAfter (strayHost.withFiles files timeline) (.ok none) ∧
      (run strayHost .plain 7 id singlePlan timeline).journal =
        [.entered .consumerStarting, .launched (singlePlan.consumerLaunch slot.id),
          .killed .consumer, .released slot] ∧
      (run strayHost .plain 7 id singlePlan timeline).system.poll .consumer = some (.ofCode 0) ∧
      ∃ system : Timeline, strayHost.BearsOut (strayHost.withFiles files timeline)
          [.entered .consumerStarting, .launched (singlePlan.consumerLaunch slot.id)] system ∧
        system.poll .consumer = some (.ofCode 0) ∧
        strayHost.poll .consumer system = (.error .noChild, system) ∧
        strayHost.reap .consumer (strayHost.kill .consumer system) = (.error .noChild, system) := by
  intro timeline
  obtain ⟨logged, written⟩ : ∃ logged,
      heldFiles.writeText (singlePlan.consumerLaunch 0).log "" = .ok logged := ⟨_, rfl⟩
  have started : strayHost.Starts (singlePlan.consumerLaunch 0)
      { timeline with files := heldFiles } { timeline with files := logged } :=
    ⟨logged, written, rfl⟩
  have waited : strayHost.awaitConsumer ⟨5⟩ { timeline with files := logged } =
      (.failed .noChild, { timeline with files := logged, now := 3 }) := by rfl
  have borne := ((Host.BearsOut.nothing.entered .consumerStarting).launched started).silent
    (.noConsumer waited nofun)
  exact ⟨_, _, reserve_singleChannel, reapsAfter_strayHost _, by decide +kernel,
    by decide +kernel, _, borne, by rfl, by rfl, by rfl⟩
end Supervision

end ProfilingSession
