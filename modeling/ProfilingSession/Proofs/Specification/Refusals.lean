import ProfilingSession.Proofs.Document.Traversal
import ProfilingSession.Proofs.Specification.Events

/-!
# Documents that are refused for a repeated key

Reading a specification gives the document as it was written if no mapping in it, at any depth, has
two entries with one key, and refuses it otherwise. `Refusal` says which key is reported, and as
what: an event that is repeated, else a parameter that is repeated in its event, else the first key
that is repeated in reading order. `checkNames_iff` says that this is what the reader does.
-/

namespace ProfilingSession.Specification

open Document (Inside keys visits)

variable {document : Document} {events : List (String × Document)} {event parameter key : String}

/-- The first event that is written twice. -/
def RepeatsEvent (document : Document) (event : String) : Prop :=
  ∃ events, HasEvents document events ∧ IsFirstRepeat (keys events) event

/-- The first of the events whose body is a mapping with a repeated key, with the first key that is
repeated there. -/
def RepeatsParameterAmong (events : List (String × Document)) (event parameter : String) : Prop :=
  ∃ before parameters after, events = before ++ (event, .mapping parameters) :: after ∧
    (∀ entry ∈ before, ∀ entries, entry.2 = .mapping entries → (keys entries).Nodup) ∧
    IsFirstRepeat (keys parameters) parameter

/-- The first parameter that is written twice, in the first event that has one. -/
def RepeatsParameter (document : Document) (event parameter : String) : Prop :=
  ∃ events, HasEvents document events ∧ RepeatsParameterAmong events event parameter

/-- The first key, in reading order, that its mapping has already. -/
def RepeatsKey (document : Document) (key : String) : Prop :=
  ∃ place, IsFirstRepeat (visits [] document) (place, key)

/-- Why a document is refused: what is repeated among the events and their parameters is told as
such, and only else what is repeated anywhere. -/
inductive Refusal (document : Document) : Problem → Prop where
  | event {event : String} (repeats : RepeatsEvent document event) :
    Refusal document (.repeatedEvent event)
  | parameter {event parameter : String} (noEvent : ∀ event, ¬ RepeatsEvent document event)
    (repeats : RepeatsParameter document event parameter) :
    Refusal document (.repeatedParameter event parameter)
  | key {key : String} (noEvent : ∀ event, ¬ RepeatsEvent document event)
    (noParameter : ∀ event parameter, ¬ RepeatsParameter document event parameter)
    (repeats : RepeatsKey document key) : Refusal document (.repeatedKey key)

theorem HasEvents.writtenEvents_eq (h : HasEvents document events) :
    writtenEvents document = events := by
  rw [hasEvents_iff] at h
  cases document with
  | mapping top => simp [writtenEvents, show Document.lookup "events" top = _ from h]
  | _ => cases h

/-- Without events there is nothing to be repeated among them. -/
theorem writtenEvents_cases (document : Document) :
    HasEvents document (writtenEvents document) ∨ writtenEvents document = [] := by
  cases document with
  | mapping top =>
    rw [hasEvents_iff]
    simp only [Document.get?, writtenEvents]
    split
    · next found => exact .inl found
    · exact .inr rfl
  | _ => exact .inr rfl

theorem repeatsEvent_iff :
    RepeatsEvent document event ↔ firstRepeat (keys (writtenEvents document)) = some event := by
  rw [firstRepeat_eq_some_iff]
  constructor
  · rintro ⟨events, has, first⟩
    rwa [has.writtenEvents_eq]
  · intro first
    rcases writtenEvents_cases document with has | none'
    · exact ⟨_, has, first⟩
    · obtain ⟨before, after, shape, -⟩ := first
      simp [none', keys] at shape

/-- An event before whose parameters differ is passed over. -/
theorem repeatsParameterAmong_cons (entry : String × Document)
    (differ : ∀ entries, entry.2 = .mapping entries → (keys entries).Nodup) :
    RepeatsParameterAmong (entry :: events) event parameter ↔
      RepeatsParameterAmong events event parameter := by
  constructor
  · rintro ⟨before, parameters, after, shape, others, first⟩
    cases before with
    | nil =>
      obtain ⟨rfl, -⟩ := List.cons.inj shape
      exact absurd (differ parameters rfl) first.not_nodup
    | cons other before =>
      obtain ⟨-, rfl⟩ := List.cons.inj shape
      exact ⟨before, parameters, after, rfl, (List.forall_mem_cons.mp others).2, first⟩
  · rintro ⟨before, parameters, after, rfl, others, first⟩
    exact ⟨entry :: before, parameters, after, rfl, List.forall_mem_cons.mpr ⟨differ, others⟩,
      first⟩

/-- An event whose parameters do not differ is the first of which one is reported. -/
theorem repeatsParameterAmong_cons_mapping {name first : String}
    {parameters : List (String × Document)} (repeats : IsFirstRepeat (keys parameters) first) :
    RepeatsParameterAmong ((name, .mapping parameters) :: events) event parameter ↔
      event = name ∧ parameter = first := by
  constructor
  · rintro ⟨before, parameters', after, shape, others, repeats'⟩
    cases before with
    | nil =>
      simp only [List.nil_append, List.cons.injEq, Prod.mk.injEq, Document.mapping.injEq] at shape
      obtain ⟨⟨rfl, rfl⟩, -⟩ := shape
      exact ⟨rfl, repeats'.unique repeats⟩
    | cons other before =>
      obtain ⟨rfl, -⟩ := List.cons.inj shape
      exact absurd ((List.forall_mem_cons.mp others).1 parameters rfl) repeats.not_nodup
  · rintro ⟨rfl, rfl⟩
    exact ⟨[], parameters, events, rfl, by simp, repeats⟩

theorem repeatedParameter_eq_some_iff {problem : Problem} :
    repeatedParameter events = some problem ↔
      ∃ event parameter, problem = .repeatedParameter event parameter ∧
        RepeatsParameterAmong events event parameter := by
  induction events with
  | nil => simp [repeatedParameter, RepeatsParameterAmong]
  | cons entry rest ih =>
    obtain ⟨name, body⟩ := entry
    cases body with
    | mapping parameters =>
      rw [repeatedParameter]
      cases found : firstRepeat (keys parameters) with
      | some first =>
        simp [repeatsParameterAmong_cons_mapping (firstRepeat_eq_some_iff.mp found), eq_comm]
      | none =>
        have differ : ∀ entries, Document.mapping parameters = .mapping entries →
            (keys entries).Nodup := by
          rintro _ ⟨⟩
          exact firstRepeat_eq_none_iff.mp found
        simp only [ih, repeatsParameterAmong_cons (name, .mapping parameters) differ]
    | _ =>
      simp only [repeatedParameter, ih]
      refine exists_congr fun event => exists_congr fun parameter => and_congr_right fun _ =>
        (repeatsParameterAmong_cons _ ?_).symm
      rintro _ ⟨⟩

theorem repeatsParameter_iff :
    RepeatsParameter document event parameter ↔
      repeatedParameter (writtenEvents document) = some (.repeatedParameter event parameter) := by
  rw [repeatedParameter_eq_some_iff]
  constructor
  · rintro ⟨events, has, repeats⟩
    rw [has.writtenEvents_eq]
    exact ⟨event, parameter, rfl, repeats⟩
  · rintro ⟨event', parameter', same, repeats⟩
    obtain ⟨rfl, rfl⟩ := Problem.repeatedParameter.inj same
    rcases writtenEvents_cases document with has | none'
    · exact ⟨_, has, repeats⟩
    · obtain ⟨before, parameters, after, shape, -⟩ := repeats
      simp [none'] at shape

theorem repeatedName_eq_some_iff {problem : Problem} :
    repeatedName document = some problem ↔
      (∃ event, RepeatsEvent document event ∧ problem = .repeatedEvent event) ∨
        (∀ event, ¬ RepeatsEvent document event) ∧
          ∃ event parameter, RepeatsParameter document event parameter ∧
            problem = .repeatedParameter event parameter := by
  simp only [repeatsEvent_iff, repeatsParameter_iff, repeatedName]
  cases firstRepeat (keys (writtenEvents document)) with
  | some event => simp [eq_comm]
  | none =>
    simp only [reduceCtorEq, false_and, exists_false, false_or, not_false_eq_true, implies_true,
      true_and]
    constructor
    · intro found
      obtain ⟨event, parameter, rfl, -⟩ := repeatedParameter_eq_some_iff.mp found
      exact ⟨event, parameter, found, rfl⟩
    · rintro ⟨event, parameter, found, rfl⟩
      exact found

theorem repeatedName_eq_none_iff :
    repeatedName document = none ↔ (∀ event, ¬ RepeatsEvent document event) ∧
      ∀ event parameter, ¬ RepeatsParameter document event parameter := by
  simp only [repeatsEvent_iff, repeatsParameter_iff, repeatedName]
  cases firstRepeat (keys (writtenEvents document)) with
  | some event => simp
  | none =>
    cases found : repeatedParameter (writtenEvents document) with
    | none => simp
    | some problem =>
      obtain ⟨event, parameter, rfl, -⟩ := repeatedParameter_eq_some_iff.mp found
      simp

/-- Names of events and parameters are keys as well. -/
theorem repeatedName_of_unambiguous (differ : document.Unambiguous) :
    repeatedName document = none := by
  rw [repeatedName_eq_none_iff]
  constructor
  · rintro event ⟨events, has, repeats⟩
    exact repeats.not_nodup (differ events has.inside)
  · rintro event parameter ⟨_, ⟨top, below, rfl, -⟩, before, parameters, after, rfl, -, repeats⟩
    have inside : Inside (.mapping parameters) (.mapping (top ++ ("events",
        .mapping (before ++ (event, .mapping parameters) :: after)) :: below)) :=
      .value (List.mem_append_right top List.mem_cons_self)
        (.value (List.mem_append_right before List.mem_cons_self) .whole)
    exact repeats.not_nodup (differ parameters inside)

theorem checkNames_eq_ok_iff {made : Document} :
    checkNames document = .ok made ↔ document.Unambiguous ∧ made = document := by
  rw [← Document.rebuild_eq_ok_iff]
  constructor
  · intro ok
    unfold checkNames at ok
    split at ok
    · cases ok
    · cases rebuilt : document.rebuild with
      | ok value => simpa [rebuilt, Except.mapError] using ok
      | error key => simp [rebuilt, Except.mapError] at ok
  · intro rebuilt
    have differ := (Document.rebuild_eq_ok_iff.mp rebuilt).1
    rw [checkNames, repeatedName_of_unambiguous differ, rebuilt]
    rfl

theorem checkNames_eq_error_iff {problem : Problem} :
    checkNames document = .error problem ↔ Refusal document problem := by
  unfold checkNames
  constructor
  · intro refused
    split at refused
    · next named =>
      cases refused
      rcases repeatedName_eq_some_iff.mp named with
        ⟨event, repeats, rfl⟩ | ⟨noEvent, event, parameter, repeats, rfl⟩
      · exact .event repeats
      · exact .parameter noEvent repeats
    · next unnamed =>
      obtain ⟨noEvent, noParameter⟩ := repeatedName_eq_none_iff.mp unnamed
      cases rebuilt : document.rebuild with
      | ok value => simp [rebuilt, Except.mapError] at refused
      | error key =>
        obtain rfl : Problem.repeatedKey key = problem := by
          simpa [rebuilt, Except.mapError] using refused
        have first := Document.rebuild_eq_error_iff.mp rebuilt
        exact .key noEvent noParameter (Document.repeatedKey_eq_some_iff.mp first)
  · intro refusal
    cases refusal with
    | event repeats =>
      rw [repeatedName_eq_some_iff.mpr (.inl ⟨_, repeats, rfl⟩)]
    | parameter noEvent repeats =>
      rw [repeatedName_eq_some_iff.mpr (.inr ⟨noEvent, _, _, repeats, rfl⟩)]
    | key noEvent noParameter repeats =>
      rw [repeatedName_eq_none_iff.mpr ⟨noEvent, noParameter⟩,
        Document.rebuild_eq_error_iff.mpr (Document.repeatedKey_eq_some_iff.mpr repeats)]
      rfl

/-- What was read is accepted if, and only if, no mapping in it has two entries with one key, and
then it is the document, with all its items and entries in their order; otherwise it is refused for
what is repeated first: among the events, else among the parameters of an event, else anywhere. -/
theorem checkNames_iff (document : Document) :
    (∀ made, checkNames document = .ok made ↔
        (∀ entries, Inside (.mapping entries) document → (keys entries).Nodup) ∧
          made = document) ∧
      ∀ problem, checkNames document = .error problem ↔ Refusal document problem :=
  ⟨fun _ => checkNames_eq_ok_iff, fun _ => checkNames_eq_error_iff⟩

end ProfilingSession.Specification
