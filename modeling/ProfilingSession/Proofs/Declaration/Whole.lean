import ProfilingSession.Proofs.Catalog.Contract
import ProfilingSession.Proofs.Declaration.Payload
import ProfilingSession.Proofs.Generation.Sources
import ProfilingSession.Proofs.Selection.Contract
import ProfilingSession.Proofs.Specification.Refusals

/-!
# The selection of a whole catalog

The document of a catalog can be read as a selection of that catalog too. Then the keys of a body
are names of parameters and their values do not matter, where they were widths before, and null
stands for none in both readings. `Catalog.whole` is the selection that is read: all events with all
their parameters. Each of its choices finds the event that it was made of, and keeps everything, so
that the declarations and the header are those of the catalog itself.
-/

namespace ProfilingSession

open Document (keys)
open Specification (HasEvents)

def Catalog.whole (catalog : Catalog) : Selection :=
  ⟨catalog.events.map fun event => ⟨event.name, event.parameters.map Parameter.name⟩⟩

variable {catalog : Catalog} {document : Document} {event : Event}

theorem Catalog.exists_isWritten_of_ofDocument (accepted : ofDocument document = .ok catalog) :
    ∃ events, HasEvents document events ∧ List.Forall₂ IsWritten events catalog.events := by
  obtain ⟨events, has, accepted⟩ := bind_eq_ok_iff.mp accepted
  obtain ⟨_, read, whole⟩ := bind_eq_ok_iff.mp accepted
  cases whole
  exact ⟨events, Specification.eventsOf_eq_ok_iff.mp has, forall₂_isWritten_of_readEvents read⟩

namespace Selection

theorem lists_of_isBody {body : Document} {entries : List (String × Document)}
    (written : Catalog.IsBody body entries) : Lists body (keys entries) := by
  cases written with
  | null => exact .null
  | mapping entries => exact .mapping entries

/-- What an event is written as is read as the choice of all its parameters. -/
theorem readChoice_of_isWritten (wellFormed : catalog.WellFormed) (mem : event ∈ catalog.events)
    {entry : String × Document} (written : Catalog.IsWritten entry event) :
    readChoice catalog entry = .ok ⟨event.name, event.parameters.map Parameter.name⟩ := by
  obtain ⟨same, body⟩ := written
  have lists := lists_of_isBody body
  simp only [keys, List.map_map, Function.comp_def] at lists
  rw [readChoice_eq_ok, same]
  refine ⟨rfl, readNames_eq_ok.mpr lists, event, wellFormed.event?_name mem, rfl, ?_, ?_⟩
  · exact (wellFormed.events event mem).parametersDiffer
  · intro name mem
    exact mem

theorem ofDocument_whole (wellFormed : catalog.WellFormed)
    {events : List (String × Document)} (has : HasEvents document events)
    (written : List.Forall₂ Catalog.IsWritten events catalog.events) :
    ofDocument catalog document = .ok catalog.whole := by
  rw [ofDocument_eq_ok]
  refine ⟨events, has, ?_⟩
  rw [Catalog.whole, List.forall₂_map_right_iff]
  have each := (List.forall₂_and_left catalog.events events).mpr
    ⟨fun event mem => mem, written.flip⟩
  apply each.flip.imp
  rintro entry event ⟨mem, written⟩
  exact readChoice_of_isWritten wellFormed mem written

end Selection

namespace Declaration

theorem ofEvent_keeps_all (event : Event) :
    ofEvent (Choice.keeps ⟨event.name, event.parameters.map Parameter.name⟩) event =
      ofEvent (fun _ => true) event := by
  have all : ∀ parameter ∈ event.parameters,
      Choice.keeps ⟨event.name, event.parameters.map Parameter.name⟩ parameter.name = true := by
    intro parameter mem
    simpa [Choice.keeps] using ⟨parameter, mem, rfl⟩
  simp [ofEvent, List.filter_eq_self.mpr all]

theorem declare_whole (wellFormed : catalog.WellFormed) :
    declare catalog (some catalog.whole) = declare catalog none := by
  simp only [declare, Catalog.whole, mapM_eq_ok_iff, List.forall₂_map_left_iff,
    List.forall₂_map_right_iff, List.forall₂_same]
  intro event mem
  rw [declareChoice_eq_ok (wellFormed.event?_name mem), ofEvent_keeps_all]

theorem declare_whole_of_ofDocument (differ : document.Unambiguous)
    (accepted : Catalog.ofDocument document = .ok catalog) :
    Selection.ofDocument catalog document = .ok catalog.whole ∧
      declare catalog (some catalog.whole) = declare catalog none := by
  have wellFormed := Catalog.wellFormed_of_ofDocument
    (Document.repeatedKey_eq_none_iff.mpr differ) accepted
  obtain ⟨events, has, written⟩ := Catalog.exists_isWritten_of_ofDocument accepted
  exact ⟨Selection.ofDocument_whole wellFormed has written, declare_whole wellFormed⟩

/-- The document of a catalog is a selection of that catalog, too, and the declarations and the
header of this selection are those of the catalog as a whole. -/
theorem declare_of_own_document (differ : document.Unambiguous)
    (accepted : Catalog.ofDocument document = .ok catalog) :
    ∃ selection declarations, Selection.ofDocument catalog document = .ok selection ∧
      declare catalog none = .ok declarations ∧
      declare catalog (some selection) = .ok declarations ∧
      ∀ prelude, (declare catalog (some selection)).map (Header.render prelude) =
        (declare catalog none).map (Header.render prelude) := by
  obtain ⟨read, whole⟩ := declare_whole_of_ofDocument differ accepted
  refine ⟨catalog.whole, _, read, rfl, whole, ?_⟩
  intro prelude
  rw [whole]

/-- The document of a catalog with an event without parameters, as a selection. -/
theorem declare_of_memoryDocument :
    memoryDocument.Unambiguous ∧ Catalog.ofDocument memoryDocument = .ok memoryCatalog ∧
      ∃ selection declarations,
        Selection.ofDocument memoryCatalog memoryDocument = .ok selection ∧
        declare memoryCatalog none = .ok declarations ∧
        declare memoryCatalog (some selection) = .ok declarations ∧
        ∀ prelude, (declare memoryCatalog (some selection)).map (Header.render prelude) =
          (declare memoryCatalog none).map (Header.render prelude) :=
  ⟨unambiguous_memoryDocument, ofDocument_memoryDocument,
    declare_of_own_document unambiguous_memoryDocument ofDocument_memoryDocument⟩

end Declaration

namespace Generation

variable {request : Request} {tree : FileTree} {profiler : Profiler}

theorem header_congr {other : Request}
    (same : declarations request tree = declarations other tree)
    (template : request.template = other.template) : header request tree = header other tree := by
  simp only [header, preludeOf, same, template]

/-- If the selection for an analysis is written as the catalog is, then the header for that analysis
is the one of the catalog, and what is wrong with the one is wrong with the other. -/
theorem header_of_own_document
    (same : Specification.load tree (selectionPath request.directory profiler) =
      Specification.load tree (FileTree.Path.join request.directory Catalog.fileName)) :
    header { request with profiler := some profiler } tree =
      header { request with profiler := none } tree := by
  refine header_congr ?_ rfl
  simp only [declarations, Catalog.load, Selection.load, Option.mapM_some, Option.mapM_none, same]
  generalize FileTree.Path.join request.directory Catalog.fileName = path
  cases loaded : Specification.load tree path with
  | error problem => rfl
  | ok document =>
    cases accepted : Catalog.ofDocument document with
    | error problem => simp [accepted, Except.mapError, bind, Except.bind]
    | ok catalog =>
      obtain ⟨read, whole⟩ := Declaration.declare_whole_of_ofDocument
        (Specification.unambiguous_of_load loaded) accepted
      simp only [accepted, read, whole, Except.mapError, bind, Except.bind, Functor.map, Except.map]
      rfl

end Generation

end ProfilingSession
