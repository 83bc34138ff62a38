import ProfilingSession.Proofs.Catalog.WellFormed
import ProfilingSession.Selection

/-!
# Choices that fit a catalog

What a selection has that was read against a catalog: every choice is of an event of the catalog,
and keeps some of its parameters, each of them once.
-/

namespace ProfilingSession

open Specification (Problem)

/-- A choice of some parameters of an event, without repeats. -/
structure Choice.Fits (choice : Choice) (event : Event) : Prop where
  name : event.name = choice.event
  differ : choice.parameters.Nodup
  isParameter : ∀ name ∈ choice.parameters, name ∈ event.parameters.map Parameter.name

theorem Event.parameter?_eq_none_iff {event : Event} {name : String} :
    event.parameter? name = none ↔ name ∉ event.parameters.map Parameter.name := by
  simp [parameter?]

theorem Catalog.event?_eq_some {catalog : Catalog} {name : String} {event : Event}
    (found : catalog.event? name = some event) : event ∈ catalog.events ∧ event.name = name :=
  ⟨List.mem_of_find?_eq_some found, by simpa using List.find?_some found⟩

/-- In a well-formed catalog an event is found under its name. -/
theorem Catalog.WellFormed.event?_name {catalog : Catalog} (h : catalog.WellFormed) {event : Event}
    (mem : event ∈ catalog.events) : catalog.event? event.name = some event := by
  cases found : catalog.event? event.name with
  | none =>
    rw [event?, List.find?_eq_none] at found
    simpa using found event mem
  | some other =>
    obtain ⟨mem', same⟩ := event?_eq_some found
    rw [List.inj_on_of_nodup_map h.tagsDiffer mem' mem (by rw [same])]

namespace Selection

variable {catalog : Catalog} {event : Event} {names : List String}

theorem checkNames_eq_ok {answer : Unit} :
    checkNames event names = .ok answer ↔
      names.Nodup ∧ ∀ name ∈ names, name ∈ event.parameters.map Parameter.name := by
  rw [checkNames, ← firstRepeat_eq_none_iff]
  cases firstRepeat names with
  | some name => simp
  | none =>
    cases found : names.find? fun name => (event.parameter? name).isNone with
    | some name =>
      have missing := List.find?_some found
      rw [Option.isNone_iff_eq_none, Event.parameter?_eq_none_iff] at missing
      simpa using ⟨name, List.mem_of_find?_eq_some found, by simpa using missing⟩
    | none =>
      rw [List.find?_eq_none] at found
      simpa [Event.parameter?_eq_none_iff] using found

theorem readChoice_eq_ok {entry : String × Document} {choice : Choice} :
    readChoice catalog entry = .ok choice ↔
      choice.event = entry.1 ∧ readNames entry.1 entry.2 = .ok choice.parameters ∧
        ∃ event, catalog.event? entry.1 = some event ∧ choice.Fits event := by
  unfold readChoice
  cases found : catalog.event? entry.1 with
  | none => simp
  | some event =>
    have named := (Catalog.event?_eq_some found).2
    simp only [bind_eq_ok_iff, checkNames_eq_ok, exists_const, pure, Except.pure, Except.ok.injEq,
      Option.some.injEq, exists_eq_left']
    constructor
    · rintro ⟨names, read, ⟨differ, isParameter⟩, rfl⟩
      exact ⟨rfl, read, named, differ, isParameter⟩
    · rintro ⟨same, read, fits⟩
      exact ⟨_, read, ⟨fits.differ, fits.isParameter⟩, by rw [← same]⟩

/-- Every choice that is read is of an event of the catalog, which is found under its name. -/
theorem exists_event_of_ofDocument {document : Document} {selection : Selection}
    (read : ofDocument catalog document = .ok selection) {choice : Choice}
    (mem : choice ∈ selection.choices) :
    ∃ event, catalog.event? choice.event = some event ∧ choice.Fits event := by
  obtain ⟨entries, -, readEntries⟩ := bind_eq_ok_iff.mp read
  obtain ⟨choices, each, whole⟩ := bind_eq_ok_iff.mp readEntries
  obtain rfl : ⟨choices⟩ = selection := Except.ok.inj whole
  obtain ⟨entry, -, chosen⟩ := exists_of_mem_forall₂ (mapM_eq_ok_iff.mp each) mem
  obtain ⟨same, -, fits⟩ := readChoice_eq_ok.mp chosen
  rwa [same]

end Selection

end ProfilingSession
