import ProfilingSession.Proofs.Declaration.Foreign

/-!
# The macros of a header differ

The tags of a header are names of events in capitals, so names that differ in case only would have
the same. A catalog has no such names. A selection may be of another catalog, but it has every name
once, and names are looked up as they are written, so that its choices find different events.
-/

namespace ProfilingSession

/-- In a well-formed catalog names with the same capitals are the same. -/
theorem Catalog.WellFormed.upper_injOn {catalog : Catalog} (h : catalog.WellFormed) :
    ∀ name ∈ catalog.events.map Event.name, ∀ other ∈ catalog.events.map Event.name,
      Text.upper name = Text.upper other → name = other := by
  intro name mem other mem' same
  obtain ⟨event, inCatalog, rfl⟩ := List.mem_map.mp mem
  obtain ⟨event', inCatalog', rfl⟩ := List.mem_map.mp mem'
  rw [List.inj_on_of_nodup_map h.tagsDiffer inCatalog inCatalog' same]

theorem Catalog.WellFormed.nodup_names {catalog : Catalog} (h : catalog.WellFormed) :
    (catalog.events.map Event.name).Nodup := by
  have tags : ((catalog.events.map Event.name).map Text.upper).Nodup := by
    simpa [List.map_map, Function.comp_def] using h.tagsDiffer
  exact tags.of_map _

/-- A selection that was read from a document without repeated keys has an event only once. -/
theorem Selection.nodup_of_ofDocument {catalog : Catalog} {document : Document}
    {selection : Selection} (written : document.repeatedKey = none)
    (read : ofDocument catalog document = .ok selection) :
    (selection.choices.map Choice.event).Nodup := by
  obtain ⟨entries, found, readEntries⟩ := bind_eq_ok_iff.mp read
  obtain ⟨choices, each, whole⟩ := bind_eq_ok_iff.mp readEntries
  obtain rfl : ⟨choices⟩ = selection := Except.ok.inj whole
  -- A choice has the name it was written with, in whatever catalog that was found.
  have names : choices.map Choice.event = Document.keys entries := by
    have chosen := mapM_eq_ok_iff.mp each
    clear each read readEntries found whole
    induction chosen with
    | nil => rfl
    | cons first _ ih =>
      have same := (readChoice_eq_ok.mp first).1
      rw [List.map_cons, ih, same, Document.keys, Document.keys, List.map_cons]
  rw [names]
  exact (Document.repeatedInEntries_eq_none_iff.mp
    (Specification.eventsOf_eq_ok found written)).1

namespace Declaration

variable {catalog : Catalog} {declarations : List Declaration}

/-- Declarations of which no two have the same tag or the same macro. -/
structure Distinct (declarations : List Declaration) : Prop where
  tags : (declarations.map tag).Nodup
  macros : (declarations.map macroName).Nodup

theorem distinct_of_tags (h : (declarations.map tag).Nodup) : Distinct declarations := by
  refine ⟨h, ?_⟩
  have macros : declarations.map macroName = (declarations.map tag).map ("PRODUCE_" ++ ·) := by
    simp [macroName, Function.comp_def]
  rw [macros]
  exact h.map fun tag other same => (String.append_right_inj _).mp same

/-- Declarations of different events of one catalog are distinct. -/
theorem distinct_of_events (wellFormed : catalog.WellFormed)
    (known : ∀ name ∈ declarations.map event, name ∈ catalog.events.map Event.name)
    (differ : (declarations.map event).Nodup) : Distinct declarations := by
  apply distinct_of_tags
  have tags : declarations.map tag = (declarations.map event).map Text.upper := by
    simp [tag, Function.comp_def]
  rw [tags]
  refine differ.map_on fun name mem other mem' same => ?_
  exact wellFormed.upper_injOn name (known name mem) other (known other mem') same

theorem map_event_of_declare {selection : Selection}
    (declared : declare catalog (some selection) = .ok declarations) :
    declarations.map event = selection.choices.map Choice.event := by
  have each := forall₂_of_declare declared
  clear declared
  generalize selection.choices = choices at each ⊢
  induction each with
  | nil => rfl
  | cons first _ ih =>
    obtain ⟨event, found, rfl⟩ := first
    have named := (Catalog.event?_eq_some found).2
    rw [List.map_cons, List.map_cons, ih, ofEvent, named]

theorem event_mem_of_declare {selection : Option Selection}
    (declared : declare catalog selection = .ok declarations) :
    ∀ name ∈ declarations.map event, name ∈ catalog.events.map Event.name := by
  intro name mem
  obtain ⟨declaration, mem', rfl⟩ := List.mem_map.mp mem
  obtain ⟨event, inCatalog, keeps, rfl⟩ := exists_of_mem_declare declared mem'
  exact List.mem_map_of_mem inCatalog

/-- No two macros of a header have the same name, and no two records the same tag: neither in the
header of a whole catalog, nor in that of a selection, whichever catalog that was read against. -/
theorem distinct_of_declare {document : Document} (differ : document.Unambiguous)
    {catalog : Catalog} (read : Catalog.ofDocument document = .ok catalog) :
    (∃ declarations, declare catalog none = .ok declarations ∧ Distinct declarations) ∧
      ∀ other written selection declarations, written.Unambiguous →
        Selection.ofDocument other written = .ok selection →
        declare catalog (some selection) = .ok declarations → Distinct declarations := by
  have wellFormed := Catalog.wellFormed_of_ofDocument
    (Document.repeatedKey_eq_none_iff.mpr differ) read
  constructor
  · have declared : declare catalog none =
        .ok (catalog.events.map (ofEvent fun _ => true)) := rfl
    refine ⟨_, declared, distinct_of_events wellFormed (event_mem_of_declare declared) ?_⟩
    simpa [ofEvent, Function.comp_def] using wellFormed.nodup_names
  · intro other written selection declarations differ' chosen declared
    refine distinct_of_events wellFormed (event_mem_of_declare declared) ?_
    rw [map_event_of_declare declared]
    exact Selection.nodup_of_ofDocument (Document.repeatedKey_eq_none_iff.mpr differ') chosen

/-- A catalog of two events in another order than `memoryDocument` has them, and a selection of
both. -/
def shortDocument : Document :=
  .mapping [("events", .mapping [
    ("loop_exit", .null), ("load", .mapping [("addr", .int 64)])])]

/-- A selection of one catalog gives a header of distinct macros with another one. -/
theorem distinct_of_short_selection :
    ∃ catalog other selection declarations, memoryDocument.Unambiguous ∧
      Catalog.ofDocument memoryDocument = .ok catalog ∧ shortDocument.Unambiguous ∧
      Catalog.ofDocument shortDocument = .ok other ∧ other ≠ catalog ∧
      Selection.ofDocument other shortDocument = .ok selection ∧
      declare catalog (some selection) = .ok declarations ∧
      declarations.map macroName = ["PRODUCE_LOOP_EXIT", "PRODUCE_LOAD"] ∧
      Distinct declarations := by
  have differ' : shortDocument.Unambiguous :=
    Document.repeatedKey_eq_none_iff.mp (by decide +kernel)
  have chosen : Selection.ofDocument ⟨[⟨"loop_exit", []⟩, ⟨"load", [⟨"addr", 64⟩]⟩]⟩
      shortDocument = .ok ⟨[⟨"loop_exit", []⟩, ⟨"load", ["addr"]⟩]⟩ := by
    decide +kernel
  have declared : declare memoryCatalog
      (some ⟨[⟨"loop_exit", []⟩, ⟨"load", ["addr"]⟩]⟩) = .ok [⟨"loop_exit", [], []⟩,
        ⟨"load", [⟨"instr", 32⟩, ⟨"addr", 64⟩, ⟨"size", 32⟩], [⟨"addr", 64⟩]⟩] := by
    decide +kernel
  have distinct := (distinct_of_declare unambiguous_memoryDocument ofDocument_memoryDocument).2
    _ _ _ _ differ' chosen declared
  exact ⟨_, _, _, _, unambiguous_memoryDocument, ofDocument_memoryDocument, differ',
    by decide +kernel, by decide +kernel, chosen, declared, by decide +kernel, distinct⟩

end Declaration

end ProfilingSession
