import ProfilingSession.Catalog
import ProfilingSession.Proofs.Document.RepeatedKey
import ProfilingSession.Proofs.Specification.Events

/-!
# Well-formed catalogs

What a catalog has that was read from a document without repeated keys: names that are
identifiers, events that differ in more than the case of their letters, parameters of an event that
differ, and widths of whole bytes. The lemmas before say for each part of the reader when it
accepts, and what it gives then.
-/

namespace ProfilingSession

open Specification (Problem)

/-- The entries under `events` of a document that repeats no key repeat none either. -/
theorem Specification.eventsOf_eq_ok {kind : Kind} {document : Document}
    {entries : List (String × Document)} (h : eventsOf kind document = .ok entries)
    (written : document.repeatedKey = none) : Document.repeatedInEntries [] entries = none := by
  have inside := Document.repeatedKey_of_inside (eventsOf_eq_ok_iff.mp h).inside written
  rwa [Document.repeatedKey] at inside

structure Event.WellFormed (event : Event) : Prop where
  isIdentifier : Text.isIdentifier event.name = true
  parameterIsIdentifier : ∀ parameter ∈ event.parameters,
    Text.isIdentifier parameter.name = true
  parametersDiffer : (event.parameters.map Parameter.name).Nodup
  isWidth : ∀ parameter ∈ event.parameters, Catalog.isWidth parameter.width = true

/-- A catalog whose events are well-formed, and have different tags. -/
structure Catalog.WellFormed (catalog : Catalog) : Prop where
  events : ∀ event ∈ catalog.events, event.WellFormed
  tagsDiffer : (catalog.events.map fun event => Text.upper event.name).Nodup

namespace Catalog

theorem checkIdentifier_eq_ok {name : String} {answer : Unit} :
    checkIdentifier name = .ok answer ↔ Text.isIdentifier name = true := by
  unfold checkIdentifier
  split <;> simp_all

theorem readParameter_eq_ok {event : String} {entry : String × Document} {parameter : Parameter} :
    readParameter event entry = .ok parameter ↔
      Text.isIdentifier entry.1 = true ∧ ∃ width : Int, entry.2 = .int width ∧
        isWidth width = true ∧ ⟨entry.1, width.toNat⟩ = parameter := by
  obtain ⟨name, value⟩ := entry
  simp only [readParameter, bind_eq_ok_iff, checkIdentifier_eq_ok, exists_const]
  refine and_congr_right fun _ => ?_
  cases value with
  | int width => by_cases whole : isWidth width = true <;> simp [whole, pure, Except.pure]
  | _ => simp

theorem readEvents_cons_eq_ok {seen : List String} {name : String} {body : Document}
    {rest : List (String × Document)} {events : List Event} :
    readEvents seen ((name, body) :: rest) = .ok events ↔
      Text.isIdentifier name = true ∧ seen.any (Text.sameLetters name) = false ∧
        ∃ parameters, readParameters name body = .ok parameters ∧
          ∃ others, readEvents (name :: seen) rest = .ok others ∧
            ⟨name, parameters⟩ :: others = events := by
  simp only [readEvents, bind_eq_ok_iff, checkIdentifier_eq_ok, exists_const]
  refine and_congr_right fun _ => ?_
  cases fresh : seen.any (Text.sameLetters name) with
  | true => simp only [if_true, bind_eq_ok_iff, reduceCtorEq, false_and, exists_false]
  | false =>
    simp only [Bool.false_eq_true, if_false, bind_eq_ok_iff, pure, Except.pure, Except.ok.injEq,
      true_and]

/-- The parameters that are read have the keys of their mapping as names. -/
theorem map_name_of_forall₂ {event : String} {entries : List (String × Document)}
    {parameters : List Parameter}
    (read : List.Forall₂ (fun entry parameter => readParameter event entry = .ok parameter)
      entries parameters) : parameters.map Parameter.name = Document.keys entries := by
  induction read with
  | nil => rfl
  | cons first _ ih =>
    obtain ⟨-, width, -, -, rfl⟩ := readParameter_eq_ok.mp first
    simpa [Document.keys] using ih

theorem toNat_isWidth {width : Int} (h : isWidth width = true) : isWidth width.toNat = true := by
  have positive : 0 ≤ width := by
    simp only [isWidth, Bool.and_eq_true, decide_eq_true_eq] at h
    exact Int.le_of_lt h.1.1
  rwa [Int.toNat_of_nonneg positive]

theorem forall_mem_of_forall₂ {event : String} {entries : List (String × Document)}
    {parameters : List Parameter}
    (read : List.Forall₂ (fun entry parameter => readParameter event entry = .ok parameter)
      entries parameters) :
    ∀ parameter ∈ parameters,
      Text.isIdentifier parameter.name = true ∧ isWidth parameter.width = true := by
  intro parameter mem
  obtain ⟨entry, -, first⟩ := exists_of_mem_forall₂ read mem
  obtain ⟨identifier, width, -, whole, rfl⟩ := readParameter_eq_ok.mp first
  exact ⟨identifier, toNat_isWidth whole⟩

theorem event_wellFormed_of_readParameters {name : String} {body : Document}
    {parameters : List Parameter} (identifier : Text.isIdentifier name = true)
    (written : body.repeatedKey = none) (read : readParameters name body = .ok parameters) :
    Event.WellFormed ⟨name, parameters⟩ := by
  obtain ⟨entries, differ, read⟩ : ∃ entries, (Document.keys entries).Nodup ∧
      List.Forall₂ (fun entry parameter => readParameter name entry = .ok parameter)
        entries parameters := by
    cases body with
    | null =>
      cases read
      exact ⟨[], List.nodup_nil, .nil⟩
    | mapping entries =>
      rw [Document.repeatedKey] at written
      exact ⟨entries, (Document.repeatedInEntries_eq_none_iff.mp written).1,
        mapM_eq_ok_iff.mp read⟩
    | _ => cases read
  have each := forall_mem_of_forall₂ read
  exact ⟨identifier, fun parameter mem => (each parameter mem).1,
    by rwa [map_name_of_forall₂ read], fun parameter mem => (each parameter mem).2⟩

/-- The events that are read are well-formed, and their tags differ from each other and from those
of the events before. -/
theorem wellFormed_of_readEvents {seen : List String} {entries : List (String × Document)}
    (written : ∀ entry ∈ entries, entry.2.repeatedKey = none) {events : List Event}
    (read : readEvents seen entries = .ok events) :
    WellFormed ⟨events⟩ ∧
      ∀ event ∈ events, Text.upper event.name ∉ seen.map Text.upper := by
  induction entries generalizing seen events with
  | nil =>
    cases read
    exact ⟨⟨by simp, by simp⟩, by simp⟩
  | cons entry rest ih =>
    obtain ⟨identifier, fresh, parameters, readBody, others, readRest, rfl⟩ :=
      readEvents_cons_eq_ok.mp read
    obtain ⟨bodyWritten, restWritten⟩ := List.forall_mem_cons.mp written
    obtain ⟨⟨each, differ⟩, new⟩ := ih restWritten readRest
    have first := event_wellFormed_of_readParameters identifier bodyWritten readBody
    have notFirst : ∀ event ∈ others, Text.upper event.name ≠ Text.upper entry.1 ∧
        Text.upper event.name ∉ seen.map Text.upper := by
      simpa only [List.map_cons, List.mem_cons, not_or] using new
    refine ⟨⟨List.forall_mem_cons.mpr ⟨first, each⟩, List.nodup_cons.mpr ⟨?_, differ⟩⟩,
      List.forall_mem_cons.mpr ⟨?_, fun event mem => (notFirst event mem).2⟩⟩
    · intro mem
      obtain ⟨event, mem', same⟩ := List.mem_map.mp mem
      exact (notFirst event mem').1 same
    · intro mem
      obtain ⟨other, mem', same⟩ := List.mem_map.mp mem
      have repeated : seen.any (Text.sameLetters entry.1) = true :=
        List.any_eq_true.mpr ⟨other, mem', by simp [Text.sameLetters, same]⟩
      rw [fresh] at repeated
      cases repeated

/-- A catalog that is read from a document without repeated keys is well-formed. -/
theorem wellFormed_of_ofDocument {document : Document} {catalog : Catalog}
    (written : document.repeatedKey = none) (read : ofDocument document = .ok catalog) :
    catalog.WellFormed := by
  obtain ⟨found, entries, read⟩ := bind_eq_ok_iff.mp read
  obtain ⟨events, readEvents, same⟩ := bind_eq_ok_iff.mp read
  cases same
  have inside := Specification.eventsOf_eq_ok entries written
  exact (wellFormed_of_readEvents
    (Document.repeatedInEntries_eq_none_iff.mp inside).2.2 readEvents).1

end Catalog

end ProfilingSession
