import ProfilingSession.Declaration
import ProfilingSession.Proofs.Selection.WellFormed

/-!
# Declarations follow what is selected

Every catalog that can be read can be declared, as a whole or restricted to any selection that can
be read against it. There is one declaration for each event, or for each choice in the order of
the selection. Its macro takes all parameters of the event in wire order, whatever is kept of them,
and its payload is what is kept, in wire order, with nothing lost or doubled.
-/

namespace ProfilingSession.Declaration

/-- A declaration of an event that keeps the parameters with certain names: it takes all parameters
of the event, and those in its payload are these, in the same order and with the same widths. -/
structure Declares (event : Event) (kept : List String) (declaration : Declaration) : Prop where
  name : declaration.event = event.name
  takes : declaration.parameters = event.parameters
  inOrder : declaration.payload.Sublist event.parameters
  keeps : (declaration.payload.map Parameter.name).Perm kept

/-- The only event of a catalog with a given name. -/
def OnlyEvent (catalog : Catalog) (name : String) (event : Event) : Prop :=
  event ∈ catalog.events ∧ event.name = name ∧
    ∀ other ∈ catalog.events, other.name = name → other = event

variable {catalog : Catalog} {event : Event} {choice : Choice} {declaration : Declaration}

/-- Since no name is that of two parameters, the names that are kept are those of the payload. -/
theorem declares_ofEvent (wellFormed : event.WellFormed) (fits : choice.Fits event) :
    Declares event choice.parameters (ofEvent choice.keeps event) where
  name := rfl
  takes := rfl
  inOrder := List.filter_sublist
  keeps := by
    have names : ((ofEvent choice.keeps event).payload.map Parameter.name) =
        (event.parameters.map Parameter.name).filter choice.keeps := by
      simp [ofEvent, List.filter_map, Function.comp_def]
    rw [names, List.perm_ext_iff_of_nodup (wellFormed.parametersDiffer.filter _) fits.differ]
    intro name
    rw [List.mem_filter, Choice.keeps, List.contains_iff_mem]
    exact ⟨And.right, fun mem => ⟨fits.isParameter name mem, mem⟩⟩

theorem onlyEvent_of_event? (wellFormed : catalog.WellFormed) {name : String}
    (found : catalog.event? name = some event) : OnlyEvent catalog name event := by
  obtain ⟨mem, named⟩ := Catalog.event?_eq_some found
  refine ⟨mem, named, fun other mem' same => ?_⟩
  have found' := wellFormed.event?_name mem'
  rw [same, found] at found'
  exact (Option.some.inj found').symm

/-- A choice whose event is found is declared, for that event. -/
theorem declareChoice_eq_ok (found : catalog.event? choice.event = some event) :
    declareChoice catalog choice = .ok (ofEvent choice.keeps event) := by
  rw [declareChoice, found]

theorem declareChoice_eq_ok_iff :
    declareChoice catalog choice = .ok declaration ↔
      ∃ event, catalog.event? choice.event = some event ∧
        ofEvent choice.keeps event = declaration := by
  unfold declareChoice
  cases catalog.event? choice.event <;> simp

/-- Every declaration is of an event of the catalog, and keeps some of its parameters. -/
theorem exists_of_mem_declare {catalog : Catalog} {selection : Option Selection}
    {declarations : List Declaration} (declared : declare catalog selection = .ok declarations)
    {declaration : Declaration} (mem : declaration ∈ declarations) :
    ∃ event ∈ catalog.events, ∃ keeps, declaration = ofEvent keeps event := by
  cases selection with
  | none =>
    obtain rfl : catalog.events.map (ofEvent fun _ => true) = declarations := by
      simpa [declare] using declared
    obtain ⟨event, mem', same⟩ := List.mem_map.mp mem
    exact ⟨event, mem', _, same.symm⟩
  | some selection =>
    obtain ⟨choice, -, chosen⟩ := exists_of_mem_forall₂ (mapM_eq_ok_iff.mp declared) mem
    obtain ⟨event, found, rfl⟩ := declareChoice_eq_ok_iff.mp chosen
    exact ⟨event, (Catalog.event?_eq_some found).1, _, rfl⟩

/-- A catalog that was read is declared, as a whole with all parameters, and restricted to every
selection that was read against it with exactly those that are kept; and whatever is selected, the
macro of an event has the same name and the same parameters. -/
theorem exists_declare_of_ofDocument {document : Document} (differ : document.Unambiguous)
    {catalog : Catalog} (read : Catalog.ofDocument document = .ok catalog) :
    declare catalog none = .ok (catalog.events.map fun event =>
        ⟨event.name, event.parameters, event.parameters⟩) ∧
      (∀ written selection, Selection.ofDocument catalog written = .ok selection →
        ∃ declarations, declare catalog (some selection) = .ok declarations ∧
          List.Forall₂ (fun choice declaration => ∃ event,
              OnlyEvent catalog choice.event event ∧
                Declares event choice.parameters declaration)
            selection.choices declarations) ∧
      ∀ first second declarations others, declare catalog first = .ok declarations →
        declare catalog second = .ok others →
          ∀ declaration ∈ declarations, ∀ other ∈ others, declaration.event = other.event →
            declaration.macroName = other.macroName ∧
              declaration.parameters = other.parameters := by
  have wellFormed := Catalog.wellFormed_of_ofDocument (Document.repeatedKey_eq_none_iff.mpr differ)
    read
  refine ⟨?_, fun written selection chosen => ?_, fun first second declarations others declared
    declared' declaration mem other mem' same => ?_⟩
  · simp [declare, ofEvent]
  · have each : ∀ choice ∈ selection.choices, ∃ event,
        catalog.event? choice.event = some event ∧ choice.Fits event :=
      fun choice mem => Selection.exists_event_of_ofDocument chosen mem
    obtain ⟨declarations, declared⟩ : ∃ declarations,
        selection.choices.mapM (declareChoice catalog) = .ok declarations := by
      rw [exists_mapM_eq_ok_iff]
      intro choice mem
      obtain ⟨event, found, -⟩ := each choice mem
      exact ⟨_, declareChoice_eq_ok found⟩
    have paired := (List.forall₂_and_left selection.choices declarations).mpr
      ⟨each, mapM_eq_ok_iff.mp declared⟩
    refine ⟨declarations, declared, paired.imp ?_⟩
    rintro choice declaration ⟨⟨event, found, fits⟩, made⟩
    obtain rfl := Except.ok.inj ((declareChoice_eq_ok found).symm.trans made)
    have only := onlyEvent_of_event? wellFormed found
    exact ⟨event, only, declares_ofEvent (wellFormed.events event only.1) fits⟩
  · obtain ⟨event, inCatalog, keeps, rfl⟩ := exists_of_mem_declare declared mem
    obtain ⟨event', inCatalog', keeps', rfl⟩ := exists_of_mem_declare declared' mem'
    have found := wellFormed.event?_name inCatalog
    rw [show event.name = event'.name from same, wellFormed.event?_name inCatalog'] at found
    obtain rfl := Option.some.inj found
    exact ⟨rfl, rfl⟩

def memoryDocument : Document :=
  .mapping [("events", .mapping [
    ("load", .mapping [("instr", .int 32), ("addr", .int 64), ("size", .int 32)]),
    ("loop_exit", .null)])]

def memoryCatalog : Catalog :=
  ⟨[⟨"load", [⟨"instr", 32⟩, ⟨"addr", 64⟩, ⟨"size", 32⟩]⟩, ⟨"loop_exit", []⟩]⟩

theorem unambiguous_memoryDocument : memoryDocument.Unambiguous :=
  Document.repeatedKey_eq_none_iff.mp (by decide +kernel)

theorem ofDocument_memoryDocument : Catalog.ofDocument memoryDocument = .ok memoryCatalog := by
  decide +kernel

/-- A selection of these events in another order, with parameters out of wire order. -/
def reorderedDocument : Document :=
  .mapping [("events", .mapping [
    ("loop_exit", .null), ("load", .list [.text "size", .text "instr"])])]

/-- A selection in another order than its catalog is declared in its own order, with the payload in
the order of the catalog. -/
theorem exists_declare_of_reordered :
    ∃ catalog selection declarations, memoryDocument.Unambiguous ∧
      Catalog.ofDocument memoryDocument = .ok catalog ∧
      Selection.ofDocument catalog reorderedDocument = .ok selection ∧
      declare catalog (some selection) = .ok declarations ∧
      List.Forall₂ (fun choice declaration => ∃ event,
          OnlyEvent catalog choice.event event ∧ Declares event choice.parameters declaration)
        selection.choices declarations := by
  have differ : memoryDocument.Unambiguous :=
    Document.repeatedKey_eq_none_iff.mp (by decide +kernel)
  have read : Catalog.ofDocument memoryDocument =
      .ok ⟨[⟨"load", [⟨"instr", 32⟩, ⟨"addr", 64⟩, ⟨"size", 32⟩]⟩, ⟨"loop_exit", []⟩]⟩ := by
    decide +kernel
  have chosen : Selection.ofDocument
      ⟨[⟨"load", [⟨"instr", 32⟩, ⟨"addr", 64⟩, ⟨"size", 32⟩]⟩, ⟨"loop_exit", []⟩]⟩
      reorderedDocument = .ok ⟨[⟨"loop_exit", []⟩, ⟨"load", ["size", "instr"]⟩]⟩ := by
    decide +kernel
  obtain ⟨-, restricted, -⟩ := exists_declare_of_ofDocument differ read
  obtain ⟨declarations, declared, each⟩ := restricted _ _ chosen
  exact ⟨_, _, declarations, differ, read, chosen, declared, each⟩

end ProfilingSession.Declaration
