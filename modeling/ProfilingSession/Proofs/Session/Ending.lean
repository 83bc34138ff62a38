import Mathlib.Data.ENat.Basic
import ProfilingSession.Proofs.Session.Deeds
import ProfilingSession.Session.Timeline

/-!
# How a supervised session ends

Once the producer has been launched, four moments decide how a session ends: the end of each
process, the time for the whole session, and the grace of the consumer after the end of the
producer. `Timeline.Ends` is the table of the five terminal states over these moments. Moments are
told from the launch of the producer, and a process that does not end by itself ends at `⊤`, so
that the table needs no case for it.

Nothing is assumed of a host but that its waits and looks come as on a timeline
(`Host.Follows`); what it does before the launch, and when it kills, is free. `supervise_of_ends`
says that a session ends as the table says, and the table is a function of the moments as soon as
no two of them fall together (`Ends.unique`, `exists_ends`).
-/

namespace ProfilingSession

variable {σ : Type}

/-- A host whose processes end at times of their own: every state shows a timeline, and what is
waited for or looked at comes as on that timeline. No wait fails on such a host. -/
structure Host.Follows (host : Host σ) (view : σ → Timeline) : Prop where
  awaitConsumer : ∀ limit system, (host.awaitConsumer limit system).map id view =
    Timeline.host.awaitConsumer limit (view system)
  awaitEither : ∀ limit system, (host.awaitEither limit system).map id view =
    Timeline.host.awaitEither limit (view system)
  poll : ∀ role system, (host.poll role system).map id view =
    Timeline.host.poll role (view system)

/-- A timeline follows itself. -/
theorem Timeline.host_follows : Timeline.host.Follows id :=
  ⟨fun _ _ => rfl, fun _ _ => rfl, fun _ _ => rfl⟩

namespace Timeline

/-- The time that is left to the end of a process; it is `⊤` if the process never ends. -/
def remaining (timeline : Timeline) (role : Role) : ℕ∞ :=
  match timeline.ending role with
  | some ending => ((ending.time - timeline.now : Nat) : ℕ∞)
  | none => ⊤

/-- The process ends by itself, with code zero. -/
def EndsWell (timeline : Timeline) (role : Role) : Prop :=
  ∃ ending, timeline.ending role = some ending ∧ ending.exit.code = some 0

/-- The producer ends first and in time, and the consumer within the grace. -/
def Drains (timeline : Timeline) (plan : Plan) : Prop :=
  timeline.remaining .producer < timeline.remaining .consumer ∧
    timeline.remaining .producer < plan.timeout.nanoseconds ∧
    timeline.remaining .consumer < timeline.remaining .producer + plan.drainGrace.nanoseconds

/-- How a session ends whose producer has just been launched. -/
def Ends (timeline : Timeline) (plan : Plan) : SessionState → Prop
  | .orderViolation =>
    timeline.remaining .consumer < timeline.remaining .producer ∧
      timeline.remaining .consumer < plan.timeout.nanoseconds
  | .timedOut .global =>
    plan.timeout.nanoseconds < timeline.remaining .producer ∧
      plan.timeout.nanoseconds < timeline.remaining .consumer
  | .timedOut .drain =>
    timeline.remaining .producer < timeline.remaining .consumer ∧
      timeline.remaining .producer < plan.timeout.nanoseconds ∧
      timeline.remaining .producer + plan.drainGrace.nanoseconds < timeline.remaining .consumer
  | .succeeded =>
    timeline.Drains plan ∧ timeline.EndsWell .producer ∧ timeline.EndsWell .consumer
  | .failed =>
    timeline.Drains plan ∧ ¬ (timeline.EndsWell .producer ∧ timeline.EndsWell .consumer)

/-- No two of the moments that decide how a session ends fall together. -/
structure Distinct (timeline : Timeline) (plan : Plan) : Prop where
  ends : timeline.remaining .producer = timeline.remaining .consumer →
    timeline.remaining .producer = ⊤
  producer_ne_timeout : timeline.remaining .producer ≠ plan.timeout.nanoseconds
  consumer_ne_timeout : timeline.remaining .consumer ≠ plan.timeout.nanoseconds
  consumer_ne_grace :
    timeline.remaining .consumer = timeline.remaining .producer + plan.drainGrace.nanoseconds →
      timeline.remaining .consumer = ⊤

variable {timeline : Timeline} {plan : Plan} {role : Role}

theorem remaining_of_ending {ending : Ending} (h : timeline.ending role = some ending) :
    timeline.remaining role = ((ending.time - timeline.now : Nat) : ℕ∞) := by
  simp [remaining, h]

theorem remaining_lt_iff (n : Nat) :
    timeline.remaining role < n ↔
      ∃ ending, timeline.ending role = some ending ∧ ending.time - timeline.now < n := by
  cases h : timeline.ending role with
  | none => simp [remaining, h]
  | some ending =>
    rw [remaining_of_ending h, Nat.cast_lt]
    simp

theorem lt_remaining_iff (n : Nat) :
    n < timeline.remaining role ↔
      ∀ ending, timeline.ending role = some ending → n < ending.time - timeline.now := by
  cases h : timeline.ending role with
  | none => simp [remaining, h]
  | some ending =>
    rw [remaining_of_ending h, Nat.cast_lt]
    simp

/-- The table has at most one entry for a timeline and a plan. -/
theorem Ends.unique {a b : SessionState} (ha : timeline.Ends plan a) (hb : timeline.Ends plan b) :
    a = b := by
  -- Two states of the table differ in the order of two moments, or in how the processes end.
  cases a with
  | timedOut first =>
    cases b with
    | timedOut second => cases first <;> cases second <;> grind [Ends]
    | _ => cases first <;> grind [Ends, Drains]
  | _ =>
    cases b with
    | timedOut second => cases second <;> grind [Ends, Drains]
    | _ => grind [Ends, Drains]

/-- The table has an entry unless two moments fall together. -/
theorem Distinct.exists_ends (distinct : timeline.Distinct plan) :
    ∃ state, timeline.Ends plan state := by
  rcases lt_trichotomy (timeline.remaining .producer) (timeline.remaining .consumer) with
    first | same | first
  · rcases distinct.producer_ne_timeout.lt_or_gt with inTime | late
    · by_cases grace : timeline.remaining .consumer <
          timeline.remaining .producer + plan.drainGrace.nanoseconds
      · by_cases well : timeline.EndsWell .producer ∧ timeline.EndsWell .consumer
        · exact ⟨.succeeded, ⟨first, inTime, grace⟩, well⟩
        · exact ⟨.failed, ⟨first, inTime, grace⟩, well⟩
      · refine ⟨.timedOut .drain, first, inTime, lt_of_le_of_ne (not_lt.mp grace) ?_⟩
        intro same
        have never := distinct.consumer_ne_grace same.symm
        rw [never] at same
        have finite : timeline.remaining .producer + plan.drainGrace.nanoseconds ≠ ⊤ := by
          simpa using inTime.ne_top
        exact finite same
    · exact ⟨.timedOut .global, late, late.trans first⟩
  · have never := distinct.ends same
    have later : (plan.timeout.nanoseconds : ℕ∞) < ⊤ := ENat.natCast_lt_top _
    exact ⟨.timedOut .global, by rwa [never], by rwa [← same, never]⟩
  · rcases distinct.consumer_ne_timeout.lt_or_gt with inTime | late
    · exact ⟨.orderViolation, first, inTime⟩
    · exact ⟨.timedOut .global, late.trans first, late⟩

/-- Once the producer has ended, the time for the whole session does not matter. -/
theorem Ends.withTimeout {state : SessionState} (h : timeline.Ends plan state) (timeout : Duration)
    (first : timeline.remaining .producer < timeline.remaining .consumer)
    (inTime : timeline.remaining .producer < plan.timeout.nanoseconds)
    (inTime' : timeline.remaining .producer < timeout.nanoseconds) :
    timeline.Ends { plan with timeout := timeout } state := by
  cases state with
  | succeeded => exact ⟨⟨first, inTime', h.1.2.2⟩, h.2⟩
  | failed => exact ⟨⟨first, inTime', h.1.2.2⟩, h.2⟩
  | orderViolation => exact absurd first h.1.asymm
  | timedOut deadline =>
    cases deadline with
    | global => exact absurd inTime h.1.asymm
    | drain => exact ⟨first, inTime', h.2.2⟩

theorem await_of_le {α : Type} {limit : Duration} {time : Nat} {what : α}
    (h : time ≤ timeline.now + limit.nanoseconds) :
    timeline.await limit (some (time, what)) = (.came what, timeline.advance time) := by
  simp [await, h]

theorem await_of_lt {α : Type} {limit : Duration} {next : Option (Nat × α)}
    (h : ∀ time what, next = some (time, what) → timeline.now + limit.nanoseconds < time) :
    timeline.await limit next =
      (.elapsed, timeline.advance (timeline.now + limit.nanoseconds)) := by
  cases next with
  | none => rfl
  | some found =>
    have late := h found.1 found.2 rfl
    simp [await, Nat.not_le.mpr late]

/-- If the producer ends first and in time, its end is what a wait for both gives. -/
theorem awaitEither_producer
    (first : timeline.remaining .producer < timeline.remaining .consumer)
    (inTime : timeline.remaining .producer < plan.timeout.nanoseconds) :
    ∃ ending, timeline.producer = some ending ∧
      host.awaitEither plan.timeout timeline =
        (.came (.producer, ending.exit), timeline.advance ending.time) := by
  obtain ⟨ending, found, soon⟩ := (remaining_lt_iff _).mp inTime
  refine ⟨ending, found, ?_⟩
  rw [remaining_of_ending found, lt_remaining_iff] at first
  have next : timeline.firstEnding = some (ending.time, .producer, ending.exit) := by
    have found' : timeline.producer = some ending := found
    cases other : timeline.consumer with
    | none => simp [firstEnding, found', other]
    | some later =>
      have before := first later other
      have le : ending.time ≤ later.time := by omega
      simp [firstEnding, found', other, le]
  have le : ending.time ≤ timeline.now + plan.timeout.nanoseconds := by omega
  change timeline.await plan.timeout timeline.firstEnding = _
  rw [next, await_of_le le]

/-- If the consumer ends first and in time, its end is what a wait for both gives. -/
theorem awaitEither_consumer
    (first : timeline.remaining .consumer < timeline.remaining .producer)
    (inTime : timeline.remaining .consumer < plan.timeout.nanoseconds) :
    ∃ ending, timeline.consumer = some ending ∧
      host.awaitEither plan.timeout timeline =
        (.came (.consumer, ending.exit), timeline.advance ending.time) := by
  obtain ⟨ending, found, soon⟩ := (remaining_lt_iff _).mp inTime
  refine ⟨ending, found, ?_⟩
  rw [remaining_of_ending found, lt_remaining_iff] at first
  have next : timeline.firstEnding = some (ending.time, .consumer, ending.exit) := by
    have found' : timeline.consumer = some ending := found
    cases other : timeline.producer with
    | none => simp [firstEnding, found', other]
    | some later =>
      have before := first later other
      have le : ¬ later.time ≤ ending.time := by omega
      simp [firstEnding, found', other, le]
  have le : ending.time ≤ timeline.now + plan.timeout.nanoseconds := by omega
  change timeline.await plan.timeout timeline.firstEnding = _
  rw [next, await_of_le le]

/-- The end that comes first is the end of a process. -/
theorem ending_of_firstEnding {time : Nat} {what : Role × Exit}
    (h : timeline.firstEnding = some (time, what)) :
    ∃ ending, timeline.ending what.1 = some ending ∧ ending.time = time := by
  unfold firstEnding at h
  split at h
  · next p c hp hc =>
    split at h <;> cases h
    · exact ⟨p, hp, rfl⟩
    · exact ⟨c, hc, rfl⟩
  · next p hp _ =>
    cases h
    exact ⟨p, hp, rfl⟩
  · next c _ hc =>
    cases h
    exact ⟨c, hc, rfl⟩
  · cases h

/-- If neither process ends in time, a wait for both ends without an end. -/
theorem awaitEither_elapsed
    (producer : plan.timeout.nanoseconds < timeline.remaining .producer)
    (consumer : plan.timeout.nanoseconds < timeline.remaining .consumer) :
    host.awaitEither plan.timeout timeline =
      (.elapsed, timeline.advance (timeline.now + plan.timeout.nanoseconds)) := by
  rw [lt_remaining_iff] at producer consumer
  refine await_of_lt fun time what next => ?_
  obtain ⟨ending, found, rfl⟩ := ending_of_firstEnding next
  have late : plan.timeout.nanoseconds < ending.time - timeline.now := by
    cases role : what.1 with
    | producer => exact producer ending (role ▸ found)
    | consumer => exact consumer ending (role ▸ found)
  omega

theorem awaitConsumer_of_le {limit : Duration} {ending : Ending}
    (found : timeline.consumer = some ending)
    (le : ending.time ≤ timeline.now + limit.nanoseconds) :
    host.awaitConsumer limit timeline = (.came ending.exit, timeline.advance ending.time) := by
  change timeline.await limit (timeline.consumer.map _) = _
  rw [found]
  exact await_of_le le

theorem awaitConsumer_of_lt {limit : Duration}
    (h : ∀ ending, timeline.consumer = some ending →
      timeline.now + limit.nanoseconds < ending.time) :
    host.awaitConsumer limit timeline =
      (.elapsed, timeline.advance (timeline.now + limit.nanoseconds)) := by
  refine await_of_lt fun time what next => ?_
  obtain ⟨ending, found, same⟩ := Option.map_eq_some_iff.mp next
  cases same
  exact h ending found

theorem grace_of_ending {ended : Ending} (found : timeline.producer = some ended) :
    timeline.remaining .producer + plan.drainGrace.nanoseconds =
      ((ended.time - timeline.now + plan.drainGrace.nanoseconds : Nat) : ℕ∞) := by
  have ending : timeline.ending .producer = some ended := found
  rw [remaining_of_ending ending, Nat.cast_add]

/-- A consumer that ends within the grace ends while it is waited for after the producer. -/
theorem awaitConsumer_within_grace {ended : Ending} (found : timeline.producer = some ended)
    (grace : timeline.remaining .consumer <
      timeline.remaining .producer + plan.drainGrace.nanoseconds) :
    ∃ ending, timeline.consumer = some ending ∧
      host.awaitConsumer plan.drainGrace (timeline.advance ended.time) =
        (.came ending.exit, (timeline.advance ended.time).advance ending.time) := by
  rw [grace_of_ending found] at grace
  obtain ⟨ending, other, soon⟩ := (remaining_lt_iff _).mp grace
  refine ⟨ending, other, awaitConsumer_of_le other ?_⟩
  simp only [advance]
  omega

/-- A consumer that goes on for longer than the grace does not end while it is waited for. -/
theorem awaitConsumer_after_grace {ended : Ending} (found : timeline.producer = some ended)
    (grace : timeline.remaining .producer + plan.drainGrace.nanoseconds <
      timeline.remaining .consumer) :
    ∃ after, host.awaitConsumer plan.drainGrace (timeline.advance ended.time) =
      (.elapsed, after) := by
  rw [grace_of_ending found, lt_remaining_iff] at grace
  refine ⟨_, awaitConsumer_of_lt fun ending other => ?_⟩
  have late := grace ending other
  simp only [advance]
  omega

/-- A producer that ends after the consumer has not ended when the consumer does. -/
theorem poll_producer_eq_none {ended : Ending} (found : timeline.consumer = some ended)
    (first : timeline.remaining .consumer < timeline.remaining .producer) :
    (timeline.advance ended.time).poll .producer = none := by
  have ended' : timeline.ending .consumer = some ended := found
  rw [remaining_of_ending ended', lt_remaining_iff] at first
  cases other : timeline.producer with
  | none => simp [poll, ending, advance, other]
  | some later =>
    have before := first later other
    have late : ¬ later.time ≤ max timeline.now ended.time := by omega
    simp [poll, ending, advance, other] at late ⊢
    exact late

end Timeline

/-- What a host that follows a timeline answers, in the form in which it is used. -/
theorem exists_of_map_eq {α τ : Type} {view : σ → τ} {answer : α × σ} {what : α} {shown : τ}
    (h : answer.map id view = (what, shown)) :
    ∃ system, answer = (what, system) ∧ view system = shown := by
  obtain ⟨given, system⟩ := answer
  obtain ⟨rfl, rfl⟩ := Prod.mk.inj h
  exact ⟨system, rfl, rfl⟩

namespace Supervision

variable {host : Host σ} {view : σ → Timeline} {plan : Plan} {slot : Slot}

/-- The session launches its producer, and is in the state `after` then. -/
def Launches (host : Host σ) (plan : Plan) (slot : Slot) (before after : Supervision σ) : Prop :=
  ∃ started ready : Supervision σ,
    (before.note (.entered .consumerStarting)).launch host (plan.consumerLaunch slot.id) =
      (.ok (), started) ∧
    started.awaitReady host plan slot = (.ok .ready, ready) ∧
    (ready.note (.entered .producerStarting)).launch host (plan.producerLaunch slot.id) =
      (.ok (), after)

theorem supervise_of_launches {before after : Supervision σ}
    (h : Launches host plan slot before after) :
    before.supervise host plan slot =
      after.superviseBoth host plan slot (host.clock after.system) := by
  obtain ⟨started, ready, launched, found, launched'⟩ := h
  simp only [supervise, launched, found, superviseProducer, launched']

theorem known_of_launch {launch : Launch} {before after : Supervision σ}
    (h : before.launch host launch = (.ok (), after)) (role : Role) :
    after.known role = before.known role := by
  rcases launch_cases host launch before with ⟨fault, system, failed, -⟩ | ⟨system, -, launched⟩
  · simp [failed] at h
  · obtain rfl := (Prod.mk.inj (launched.symm.trans h)).2
    simp

/-- No end is known when the producer is launched. -/
theorem known_of_launches {before after : Supervision σ}
    (h : Launches host plan slot before after) (role : Role) :
    after.known role = before.known role := by
  obtain ⟨started, ready, launched, found, launched'⟩ := h
  rcases known_awaitReady found with ⟨-, same⟩ | ⟨exit, other, -⟩
  · rw [known_of_launch launched', known_note, same, known_of_launch launched, known_note]
  · cases other

/-- The consumer has drained: the verdict is on both ends. -/
theorem awaitEnd_of_drains (follows : host.Follows view) {state : Supervision σ}
    (h : (view state.system).Drains plan) :
    ∃ p c, (view state.system).ending .producer = some p ∧
      (view state.system).ending .consumer = some c ∧
      (state.awaitEnd host plan).1 =
        .ok (if p.exit.isSuccess && c.exit.isSuccess then .succeeded else .failed) := by
  obtain ⟨first, inTime, grace⟩ := h
  obtain ⟨p, producer, came⟩ := Timeline.awaitEither_producer first inTime
  obtain ⟨system, answer, shown⟩ := exists_of_map_eq ((follows.awaitEither _ _).trans came)
  obtain ⟨c, consumer, drained⟩ := Timeline.awaitConsumer_within_grace producer grace
  rw [← shown] at drained
  obtain ⟨system', answer', -⟩ := exists_of_map_eq ((follows.awaitConsumer _ _).trans drained)
  refine ⟨p, c, producer, consumer, ?_⟩
  simp only [awaitEnd, awaitEither, answer, awaitConsumer, system_note, system_learn, answer']
  rfl

/-- A session whose producer runs ends as its timeline says. -/
theorem awaitEnd_of_ends (follows : host.Follows view) {state : Supervision σ}
    (unknown : state.known .producer = none) {ended : SessionState}
    (h : (view state.system).Ends plan ended) :
    (state.awaitEnd host plan).1 = .ok ended := by
  cases ended with
  | succeeded =>
    obtain ⟨drains, ⟨p, producer, zero⟩, c, consumer, zero'⟩ := h
    obtain ⟨p', c', producer', consumer', same⟩ := awaitEnd_of_drains follows drains
    obtain rfl : p = p' := Option.some.inj (producer.symm.trans producer')
    obtain rfl : c = c' := Option.some.inj (consumer.symm.trans consumer')
    simpa [Exit.isSuccess, zero, zero'] using same
  | failed =>
    obtain ⟨drains, bad⟩ := h
    obtain ⟨p, c, producer, consumer, same⟩ := awaitEnd_of_drains follows drains
    have bad' : ¬ (p.exit.isSuccess && c.exit.isSuccess) = true := by
      intro good
      simp only [Exit.isSuccess, Bool.and_eq_true, beq_iff_eq] at good
      exact bad ⟨⟨p, producer, good.1⟩, c, consumer, good.2⟩
    rwa [if_neg bad'] at same
  | orderViolation =>
    obtain ⟨first, inTime⟩ := h
    obtain ⟨c, consumer, came⟩ := Timeline.awaitEither_consumer first inTime
    obtain ⟨system, answer, shown⟩ := exists_of_map_eq ((follows.awaitEither _ _).trans came)
    have looked : Timeline.host.poll .producer (view system) = (.ok none, view system) := by
      simp only [shown, Timeline.host, Timeline.poll_producer_eq_none consumer first]
    obtain ⟨system', answer', -⟩ := exists_of_map_eq ((follows.poll _ _).trans looked)
    have unknown' : known .producer (learn .consumer c.exit { state with system := system }) =
        none := by
      rw [known_learn_of_ne (by simp), known_withSystem, unknown]
    simp only [awaitEnd, awaitEither, answer, poll, unknown', system_learn, answer']
  | timedOut deadline =>
    cases deadline with
    | global =>
      have elapsed := Timeline.awaitEither_elapsed h.1 h.2
      obtain ⟨system, answer, -⟩ := exists_of_map_eq ((follows.awaitEither _ _).trans elapsed)
      simp only [awaitEnd, awaitEither, answer]
    | drain =>
      obtain ⟨first, inTime, grace⟩ := h
      obtain ⟨p, producer, came⟩ := Timeline.awaitEither_producer first inTime
      obtain ⟨system, answer, shown⟩ := exists_of_map_eq ((follows.awaitEither _ _).trans came)
      obtain ⟨after, elapsed⟩ := Timeline.awaitConsumer_after_grace producer grace
      rw [← shown] at elapsed
      obtain ⟨system', answer', -⟩ := exists_of_map_eq ((follows.awaitConsumer _ _).trans elapsed)
      simp only [awaitEnd, awaitEither, answer, awaitConsumer, system_note, system_learn, answer']

/-- A session that has launched its producer ends as the timeline then says. -/
theorem supervise_of_ends (follows : host.Follows view) {before after : Supervision σ}
    (h : Launches host plan slot before after) (unknown : before.known .producer = none)
    {ended : SessionState} (ends : (view after.system).Ends plan ended) :
    ∃ report last, before.supervise host plan slot = (.ok report, last) ∧
      report.state = ended := by
  have running : (after.note (.entered .running)).known .producer = none := by
    rw [known_note, known_of_launches h, unknown]
  have same := awaitEnd_of_ends follows running ends
  obtain ⟨report, state, done⟩ :=
    superviseBoth_of_ok plan slot (host.clock after.system) (Prod.ext same rfl)
  exact ⟨report, _, (supervise_of_launches h).trans done, state⟩

/-- The time for the whole session plays no part until the producer is launched. -/
theorem Launches.withTimeout {before after : Supervision σ}
    (h : Launches host plan slot before after) (timeout : Duration) :
    Launches host { plan with timeout := timeout } slot before after := h

/-- The terminal state of a session, from the launch of its producer: it is the one that the table
has for the moments at which the processes end, whatever the plan, the host and the start of the
session were, and no other. Once the producer has ended, another time for the whole session gives
the same state. -/
theorem supervise_state_iff (follows : host.Follows view) {system : σ}
    {launched : Supervision σ} (h : Launches host plan slot (start system) launched)
    (distinct : (view launched.system).Distinct plan) :
    ∃ report last, (start system).supervise host plan slot = (.ok report, last) ∧
      (∀ state, report.state = state ↔ (view launched.system).Ends plan state) ∧
      ∀ timeout : Duration,
        (view launched.system).remaining .producer < (view launched.system).remaining .consumer →
        (view launched.system).remaining .producer < plan.timeout.nanoseconds →
        (view launched.system).remaining .producer < timeout.nanoseconds →
        ∃ report' last', (start system).supervise host { plan with timeout := timeout } slot =
          (.ok report', last') ∧ report'.state = report.state := by
  obtain ⟨state, ends⟩ := distinct.exists_ends
  obtain ⟨report, last, done, same⟩ := supervise_of_ends follows h rfl ends
  refine ⟨report, last, done, fun other => ⟨fun eq => ?_, fun ends' => ?_⟩,
    fun timeout first inTime inTime' => ?_⟩
  · rwa [← eq, same]
  · exact same.trans (ends.unique ends')
  · obtain ⟨report', last', done', same'⟩ := supervise_of_ends follows (h.withTimeout timeout) rfl
      (ends.withTimeout timeout first inTime inTime')
    exact ⟨report', last', done', same'.trans same.symm⟩

/-- A plan with a hundred nanoseconds for the session and ten for the consumer after it. -/
def briefPlan : Plan :=
  { Plan.standard .dependence "consumer" "producer" with
    timeout := ⟨100⟩, drainGrace := ⟨10⟩, readiness := .warmUp ⟨5⟩ }

/-- Two processes that end well, the consumer five nanoseconds after the producer. -/
def briefTimeline (files : FileTree) (now : Nat) : Timeline :=
  ⟨files, now, some ⟨20, .ofCode 0⟩, some ⟨25, .ofCode 0⟩⟩

theorem drains_briefTimeline (files : FileTree) : (briefTimeline files 5).Drains briefPlan := by
  refine ⟨?_, ?_, ?_⟩ <;> simp only [Timeline.remaining, Timeline.ending, briefTimeline, briefPlan]
    <;> norm_cast

theorem distinct_briefTimeline (files : FileTree) :
    (briefTimeline files 5).Distinct briefPlan := by
  constructor <;> simp only [Timeline.remaining, Timeline.ending, briefTimeline, briefPlan]
    <;> norm_cast

/-- The producer is launched once the consumer was given its time to start. -/
theorem launches_briefTimeline :
    Launches Timeline.host briefPlan (briefPlan.channels.slot 7)
      (start (briefTimeline ⟨.empty, []⟩ 0))
      ⟨briefTimeline ⟨.directory 0o755 [("producer.log", .file 0o644 ⟨#[]⟩),
          ("consumer.log", .file 0o644 ⟨#[]⟩)], []⟩ 5, none, none,
        [.entered .consumerStarting, .launched (briefPlan.consumerLaunch 7), .foundReady,
          .entered .producerStarting, .launched (briefPlan.producerLaunch 7)]⟩ :=
  ⟨⟨briefTimeline ⟨.directory 0o755 [("consumer.log", .file 0o644 ⟨#[]⟩)], []⟩ 0, none, none,
      [.entered .consumerStarting, .launched (briefPlan.consumerLaunch 7)]⟩,
    ⟨briefTimeline ⟨.directory 0o755 [("consumer.log", .file 0o644 ⟨#[]⟩)], []⟩ 5, none, none,
      [.entered .consumerStarting, .launched (briefPlan.consumerLaunch 7), .foundReady]⟩,
    by rfl, by rfl, by rfl⟩

/-- A consumer that ends within the grace makes the session a success. -/
theorem supervise_state_of_brief :
    ∃ launched : Supervision Timeline,
      Launches Timeline.host briefPlan (briefPlan.channels.slot 7)
        (start (briefTimeline ⟨.empty, []⟩ 0)) launched ∧
      launched.system.Distinct briefPlan ∧
      ∃ report last,
        (start (briefTimeline ⟨.empty, []⟩ 0)).supervise Timeline.host briefPlan
          (briefPlan.channels.slot 7) = (.ok report, last) ∧
        report.state = .succeeded := by
  have distinct := distinct_briefTimeline
    ⟨.directory 0o755 [("producer.log", .file 0o644 ⟨#[]⟩),
      ("consumer.log", .file 0o644 ⟨#[]⟩)], []⟩
  obtain ⟨report, last, done, state, -⟩ :=
    supervise_state_iff Timeline.host_follows launches_briefTimeline distinct
  exact ⟨_, launches_briefTimeline, distinct, report, last, done,
    (state .succeeded).mpr ⟨drains_briefTimeline _, ⟨_, rfl, rfl⟩, ⟨_, rfl, rfl⟩⟩⟩

end Supervision

end ProfilingSession
