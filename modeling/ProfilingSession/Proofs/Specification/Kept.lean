import ProfilingSession.Proofs.Catalog.Contract
import ProfilingSession.Proofs.Document.Finite
import ProfilingSession.Proofs.Selection.Contract
import ProfilingSession.Proofs.Specification.Refusals

/-!
# What is kept of a specification

A text without repeated keys is kept as the document that is written in it, with its numbers made
finite, and a catalog or a selection is read from the events of that. Events that go with the
contract of catalogs have whole numbers only and stay as they are; a body that lists names still
lists them.
-/

namespace ProfilingSession

open Document (Format finiteEntries)
open Specification (HasEvents)

variable {format : Format} {text : String} {written document body : Document}
variable {events : List (String × Document)}

theorem Document.Format.written_json_eq_ok_iff :
    Format.json.written text = .ok written ↔ Document.Json.read text = .ok written := by
  rw [Format.written]
  cases Document.Json.read text <;> simp [Except.mapError]

theorem Specification.HasEvents.finite (has : HasEvents written events) :
    HasEvents written.finite (finiteEntries events) := by
  obtain ⟨above, below, rfl, first⟩ := has
  refine ⟨finiteEntries above, finiteEntries below, ?_, ?_⟩
  · rw [Document.finite, Document.finiteEntries_append_cons, Document.finite]
  · rwa [Document.keys_finiteEntries]

theorem Specification.parse_eq_ok (read : format.written text = .ok written)
    (differ : written.Unambiguous) : Specification.parse format text = .ok written.finite := by
  have kept : format.read text = .ok written.finite := by rw [Format.read, read]; rfl
  rw [Specification.parse, kept]
  exact checkNames_eq_ok_iff.mpr ⟨differ.finite, rfl⟩

theorem Catalog.Contract.finiteEntries_eq (contract : Catalog.Contract events) :
    finiteEntries events = events := by
  refine Document.finiteEntries_eq_self fun entry mem => ?_
  obtain ⟨-, parameters, isBody, right⟩ := contract.isEvent entry mem
  revert isBody
  generalize entry.2 = body
  intro isBody
  cases isBody with
  | null => exact Document.finite_null
  | mapping =>
    refine Document.finite_mapping_iff.mpr fun parameter mem => ?_
    obtain ⟨-, width, whole, -⟩ := right parameter mem
    rw [whole]
    exact Document.finite_int width

/-- The names that a body lists are still there when its numbers are made finite. -/
theorem Selection.Lists.finite {names : List String} (lists : Selection.Lists body names) :
    Selection.Lists body.finite names := by
  cases lists with
  | null => exact .null
  | mapping entries =>
    rw [Document.finite, ← Document.keys_finiteEntries]
    exact .mapping _
  | list names =>
    rw [Document.finite, Document.finiteItems_eq_map, List.map_map]
    exact .list names

theorem Selection.isChoice_finiteEntries {catalog : Catalog}
    (right : ∀ entry ∈ events, Selection.IsChoice catalog entry) :
    ∀ entry ∈ finiteEntries events, Selection.IsChoice catalog entry := by
  rw [Document.finiteEntries_eq_map, List.forall_mem_map]
  intro entry mem
  obtain ⟨event, mem', named, names, lists, chosen⟩ := right entry mem
  exact ⟨event, mem', named, names, lists.finite, chosen⟩

/-! Reading the events -/

theorem Catalog.parse_eq_readEvents (read : Specification.parse format text = .ok document)
    (has : HasEvents document events) :
    Catalog.parse format text = (Catalog.readEvents [] events).map Catalog.mk := by
  have found : Specification.eventsOf .catalog document = .ok events :=
    Specification.eventsOf_eq_ok_iff.mpr has
  rw [Catalog.parse, read]
  change Catalog.ofDocument document = _
  rw [Catalog.ofDocument, found]
  change (Catalog.readEvents [] events >>= fun read => pure (Catalog.mk read)) = _
  cases Catalog.readEvents [] events <;> rfl

theorem Selection.parse_eq_mapM {catalog : Catalog}
    (read : Specification.parse format text = .ok document) (has : HasEvents document events) :
    Selection.parse catalog format text =
      (events.mapM (Selection.readChoice catalog)).map Selection.mk := by
  have found : Specification.eventsOf .selection document = .ok events :=
    Specification.eventsOf_eq_ok_iff.mpr has
  rw [Selection.parse, read]
  change Selection.ofDocument catalog document = _
  rw [Selection.ofDocument, found]
  change (events.mapM (Selection.readChoice catalog) >>= fun read => pure (Selection.mk read)) = _
  cases events.mapM (Selection.readChoice catalog) <;> rfl

end ProfilingSession
