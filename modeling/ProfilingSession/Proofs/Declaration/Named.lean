import ProfilingSession.Header
import ProfilingSession.Proofs.Declaration.Respelling

/-!
# Only the events that a selection names matter

A catalog is looked into under the names of a selection only, when it is read and when it is
declared. Two catalogs that have the same events of these names (`Catalog.Agree`) are therefore the
same to it: what one of them accepts or refuses the other one does, with the same words, and
declarations and headers are the same. Other events can be added, moved, changed or taken away.
-/

namespace ProfilingSession

open Document (keys)
open Specification (HasEvents)

/-- Two catalogs have the same event of a name, with the same parameters and widths in the same
order, or none of them has one. -/
def Catalog.Agree (catalog other : Catalog) (name : String) : Prop :=
  ∀ parameters, ⟨name, parameters⟩ ∈ catalog.events ↔ ⟨name, parameters⟩ ∈ other.events

variable {catalog other : Catalog} {name : String} {entry : String × Document}
variable {document source otherSource : Document} {selection : Selection}

/-- Where events are told apart by their names, those of one name are found alike. -/
theorem Catalog.Agree.event?_eq (agree : Agree catalog other name)
    (wellFormed : catalog.WellFormed) (wellFormed' : other.WellFormed) :
    catalog.event? name = other.event? name := by
  apply Option.ext
  rintro ⟨name', parameters⟩
  rw [wellFormed.event?_eq_some_iff, wellFormed'.event?_eq_some_iff]
  refine and_congr_left ?_
  rintro rfl
  exact agree parameters

theorem Selection.readChoice_congr (same : catalog.event? entry.1 = other.event? entry.1) :
    readChoice catalog entry = readChoice other entry := by
  rw [readChoice, readChoice, same]

/-- A document is read alike, or refused for the same reason. -/
theorem Selection.ofDocument_congr (same : ∀ events, HasEvents document events →
      ∀ name ∈ keys events, catalog.event? name = other.event? name) :
    ofDocument catalog document = ofDocument other document := by
  cases found : Specification.eventsOf .selection document with
  | error problem =>
    rw [ofDocument, ofDocument, found]
    rfl
  | ok events =>
    have named := same events (Specification.eventsOf_eq_ok_iff.mp found)
    have each : events.mapM (readChoice catalog) = events.mapM (readChoice other) :=
      mapM_congr fun entry mem => readChoice_congr (named entry.1 (List.mem_map_of_mem mem))
    rw [ofDocument, ofDocument, found]
    change (events.mapM (readChoice catalog) >>= _) = (events.mapM (readChoice other) >>= _)
    rw [each]

/-- The choices of a selection are of events that its document names. -/
theorem Selection.exists_key_of_ofDocument (read : ofDocument catalog document = .ok selection) :
    ∃ events, HasEvents document events ∧
      ∀ choice ∈ selection.choices, choice.event ∈ keys events := by
  obtain ⟨events, has, each⟩ := ofDocument_eq_ok.mp read
  refine ⟨events, has, fun choice mem => ?_⟩
  obtain ⟨entry, mem', chosen⟩ := exists_of_mem_forall₂ each mem
  rw [(readChoice_eq_ok.mp chosen).1]
  exact List.mem_map_of_mem mem'

namespace Declaration

theorem declare_congr (same : ∀ choice ∈ selection.choices,
      catalog.event? choice.event = other.event? choice.event) :
    declare catalog (some selection) = declare other (some selection) :=
  mapM_congr fun choice mem => by rw [declareChoice, declareChoice, same choice mem]

/-- Against two catalogs that were read and agree on every event that a document names, the document
is read as the same selection, or refused for the same reason. The selection is declared alike, and
its headers are the same with any prelude. -/
theorem declare_of_agree (differ : source.Unambiguous)
    (accepted : Catalog.ofDocument source = .ok catalog) (differ' : otherSource.Unambiguous)
    (accepted' : Catalog.ofDocument otherSource = .ok other)
    (agree : ∀ events, HasEvents document events →
      ∀ name ∈ keys events, Catalog.Agree catalog other name) :
    Selection.ofDocument catalog document = Selection.ofDocument other document ∧
      ∀ selection, Selection.ofDocument catalog document = .ok selection →
        ∃ declarations, declare catalog (some selection) = .ok declarations ∧
          declare other (some selection) = .ok declarations ∧
          ∀ prelude, (declare catalog (some selection)).map (Header.render prelude) =
            (declare other (some selection)).map (Header.render prelude) := by
  have wellFormed := Catalog.wellFormed_of_ofDocument
    (Document.repeatedKey_eq_none_iff.mpr differ) accepted
  have wellFormed' := Catalog.wellFormed_of_ofDocument
    (Document.repeatedKey_eq_none_iff.mpr differ') accepted'
  have same : ∀ events, HasEvents document events →
      ∀ name ∈ keys events, catalog.event? name = other.event? name :=
    fun events has name mem => (agree events has name mem).event?_eq wellFormed wellFormed'
  refine ⟨Selection.ofDocument_congr same, fun selection read => ?_⟩
  obtain ⟨events, has, named⟩ := Selection.exists_key_of_ofDocument read
  have alike : declare catalog (some selection) = declare other (some selection) :=
    declare_congr fun choice mem => same events has choice.event (named choice mem)
  obtain ⟨declarations, declared⟩ := exists_declare_of_covers (covers_of_ofDocument read)
  refine ⟨declarations, declared, alike ▸ declared, fun prelude => ?_⟩
  rw [alike]

/-- `memoryDocument` with its events in another order, an event more, and a parameter for
`loop_exit`. -/
def editedDocument : Document :=
  .mapping [("events", .mapping [
    ("alloc", .mapping [("size", .int 64)]),
    ("loop_exit", .mapping [("id", .int 32)]),
    ("load", .mapping [("instr", .int 32), ("addr", .int 64), ("size", .int 32)])])]

def editedCatalog : Catalog :=
  ⟨[⟨"alloc", [⟨"size", 64⟩]⟩, ⟨"loop_exit", [⟨"id", 32⟩]⟩,
    ⟨"load", [⟨"instr", 32⟩, ⟨"addr", 64⟩, ⟨"size", 32⟩]⟩]⟩

def loadSelection : Document :=
  .mapping [("events", .mapping [("load", .list [.text "size", .text "addr"])])]

theorem declare_of_edited :
    ∃ selection declarations,
      memoryDocument.Unambiguous ∧ Catalog.ofDocument memoryDocument = .ok memoryCatalog ∧
      editedDocument.Unambiguous ∧ Catalog.ofDocument editedDocument = .ok editedCatalog ∧
      Catalog.Agree memoryCatalog editedCatalog "load" ∧
      Selection.ofDocument memoryCatalog loadSelection = .ok selection ∧
      Selection.ofDocument editedCatalog loadSelection = .ok selection ∧
      declare memoryCatalog (some selection) = .ok declarations ∧
      declare editedCatalog (some selection) = .ok declarations := by
  have edited : Catalog.ofDocument editedDocument = .ok editedCatalog := by decide +kernel
  have differ : editedDocument.Unambiguous :=
    Document.repeatedKey_eq_none_iff.mp (by decide +kernel)
  have read : Selection.ofDocument memoryCatalog loadSelection =
      .ok ⟨[⟨"load", ["size", "addr"]⟩]⟩ := by
    decide +kernel
  have agree : Catalog.Agree memoryCatalog editedCatalog "load" := by
    intro parameters
    simp [memoryCatalog, editedCatalog]
  have named : ∀ events, HasEvents loadSelection events →
      ∀ name ∈ keys events, Catalog.Agree memoryCatalog editedCatalog name := by
    intro events has name mem
    obtain rfl : [("load", Document.list [.text "size", .text "addr"])] = events := by
      simpa [Specification.hasEvents_iff, loadSelection, Document.get?, Document.lookup] using has
    obtain rfl : name = "load" := by simpa [keys] using mem
    exact agree
  obtain ⟨same, alike⟩ := declare_of_agree unambiguous_memoryDocument ofDocument_memoryDocument
    differ edited named
  obtain ⟨declarations, declared, declared', -⟩ := alike _ read
  exact ⟨_, declarations, unambiguous_memoryDocument, ofDocument_memoryDocument, differ, edited,
    agree, read, same ▸ read, declared, declared'⟩

end Declaration

end ProfilingSession
