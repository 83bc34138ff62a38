import ProfilingSession.Proofs.Declaration.Payload

/-!
# Selections of another catalog

A selection may be declared with a catalog that it was not read against. Its events are looked up in
that catalog, and the first one that is not there is reported, but the parameters it keeps are not:
a payload holds those that the catalog has, and the others are left out without a word.
`forwards_iff` says when that happens. Nothing is left out of a selection that was read against the
catalog itself.
-/

namespace ProfilingSession

open Specification (Problem)

theorem Catalog.exists_event?_iff {catalog : Catalog} {name : String} :
    (∃ event, catalog.event? name = some event) ↔ name ∈ catalog.events.map Event.name := by
  rw [← Option.isSome_iff_exists]
  simp [event?, List.find?_isSome]

namespace Declaration

variable {catalog : Catalog} {choice : Choice} {event : Event}

/-- Everything that a choice keeps is in the payload of a declaration. -/
def Forwards (choice : Choice) (declaration : Declaration) : Prop :=
  ∀ name ∈ choice.parameters, name ∈ declaration.payload.map Parameter.name

/-- Everything that a choice keeps is a parameter of its event in a catalog. -/
def Covers (catalog : Catalog) (choice : Choice) : Prop :=
  ∃ event, catalog.event? choice.event = some event ∧
    ∀ name ∈ choice.parameters, name ∈ event.parameters.map Parameter.name

theorem declareChoice_eq_error_iff {problem : Problem} :
    declareChoice catalog choice = .error problem ↔
      choice.event ∉ catalog.events.map Event.name ∧ problem = .unknownEvent choice.event := by
  rw [← Catalog.exists_event?_iff]
  unfold declareChoice
  cases catalog.event? choice.event with
  | none => simp [eq_comm]
  | some event => simp

theorem exists_declareChoice_iff :
    (∃ declaration, declareChoice catalog choice = .ok declaration) ↔
      choice.event ∈ catalog.events.map Event.name := by
  simp only [declareChoice_eq_ok_iff, ← Catalog.exists_event?_iff]
  constructor
  · rintro ⟨_, event, found, -⟩
    exact ⟨event, found⟩
  · rintro ⟨event, found⟩
    exact ⟨_, event, found, rfl⟩

theorem name_mem_payload_iff (choice : Choice) (event : Event) (name : String) :
    name ∈ (ofEvent choice.keeps event).payload.map Parameter.name ↔
      name ∈ choice.parameters ∧ name ∈ event.parameters.map Parameter.name := by
  simp only [ofEvent, Choice.keeps, List.mem_map, List.mem_filter, List.contains_iff_mem]
  constructor
  · rintro ⟨parameter, ⟨mem, kept⟩, rfl⟩
    exact ⟨kept, parameter, mem, rfl⟩
  · rintro ⟨kept, parameter, mem, rfl⟩
    exact ⟨parameter, ⟨mem, kept⟩, rfl⟩

theorem forwards_ofEvent_iff (found : catalog.event? choice.event = some event) :
    Forwards choice (ofEvent choice.keeps event) ↔ Covers catalog choice := by
  simp only [Forwards, Covers, name_mem_payload_iff, found, Option.some.injEq, exists_eq_left']
  exact forall₂_congr fun name kept => and_iff_right kept

theorem covers_of_ofDocument {written : Document} {selection : Selection}
    (read : Selection.ofDocument catalog written = .ok selection) :
    ∀ choice ∈ selection.choices, Covers catalog choice := by
  intro choice mem
  obtain ⟨event, found, fits⟩ := Selection.exists_event_of_ofDocument read mem
  exact ⟨event, found, fits.isParameter⟩

theorem exists_declare_of_covers {selection : Selection}
    (covered : ∀ choice ∈ selection.choices, Covers catalog choice) :
    ∃ declarations, declare catalog (some selection) = .ok declarations := by
  refine exists_mapM_eq_ok_iff.mpr fun choice mem => ?_
  obtain ⟨event, found, -⟩ := covered choice mem
  exact ⟨_, declareChoice_eq_ok found⟩

theorem forall₂_of_declare {selection : Selection} {declarations : List Declaration}
    (declared : declare catalog (some selection) = .ok declarations) :
    List.Forall₂ (fun choice declaration => ∃ event,
        catalog.event? choice.event = some event ∧ ofEvent choice.keeps event = declaration)
      selection.choices declarations :=
  (mapM_eq_ok_iff.mp declared).imp fun _ _ => declareChoice_eq_ok_iff.mp

/-- All choices are forwarded as a whole if the catalog covers them all, and only then. -/
theorem forall₂_forwards_iff {selection : Selection} {declarations : List Declaration}
    (declared : declare catalog (some selection) = .ok declarations) :
    List.Forall₂ Forwards selection.choices declarations ↔
      ∀ choice ∈ selection.choices, Covers catalog choice := by
  have each := forall₂_of_declare declared
  clear declared
  generalize selection.choices = choices at each ⊢
  induction each with
  | nil => simp
  | cons first _ ih =>
    obtain ⟨event, found, rfl⟩ := first
    rw [List.forall₂_cons, List.forall_mem_cons, forwards_ofEvent_iff found]
    exact and_congr_right fun _ => ih

/-- What a catalog makes of any selection, read against it or against another one. The first choice
of an event that the catalog does not have is reported. Otherwise each payload holds what its choice
keeps and the catalog has, so that everything is forwarded if, and only if, the catalog covers all
choices, as it does if the selection was read against it. -/
theorem forwards_iff (catalog : Catalog) (selection : Selection) :
    (∀ problem, declare catalog (some selection) = .error problem ↔
        ∃ before choice after, selection.choices = before ++ choice :: after ∧
          (∀ other ∈ before, other.event ∈ catalog.events.map Event.name) ∧
          choice.event ∉ catalog.events.map Event.name ∧
          problem = .unknownEvent choice.event) ∧
      (∀ declarations, declare catalog (some selection) = .ok declarations →
        List.Forall₂ (fun choice declaration => ∃ event,
            catalog.event? choice.event = some event ∧
              ∀ name, name ∈ declaration.payload.map Parameter.name ↔
                name ∈ choice.parameters ∧ name ∈ event.parameters.map Parameter.name)
          selection.choices declarations ∧
        (List.Forall₂ Forwards selection.choices declarations ↔
          ∀ choice ∈ selection.choices, Covers catalog choice)) ∧
      ∀ written, Selection.ofDocument catalog written = .ok selection →
        ∃ declarations, declare catalog (some selection) = .ok declarations ∧
          List.Forall₂ Forwards selection.choices declarations := by
  refine ⟨fun problem => ?_, fun declarations declared => ?_, fun written read => ?_⟩
  · simp only [declare, mapM_eq_error_iff, exists_declareChoice_iff, declareChoice_eq_error_iff]
  · refine ⟨(forall₂_of_declare declared).imp ?_, forall₂_forwards_iff declared⟩
    rintro choice _ ⟨event, found, rfl⟩
    exact ⟨event, found, name_mem_payload_iff choice event⟩
  · -- Reading a selection has looked up its parameters already.
    have covered := covers_of_ofDocument read
    obtain ⟨declarations, declared⟩ := exists_declare_of_covers covered
    exact ⟨declarations, declared, (forall₂_forwards_iff declared).mpr covered⟩

/-- A document of one event with some parameters of 64 bits, which is both a catalog and a selection
of it. -/
def loadDocument (parameters : List String) : Document :=
  .mapping [("events", .mapping [("load", .mapping (parameters.map fun name => (name, .int 64)))])]

/-- A selection that keeps a parameter is declared with a catalog that does not have it: the record
is shorter than the one that was selected, and nothing is reported. -/
theorem exists_declare_not_forwards :
    ∃ catalog other selection declarations,
      Catalog.ofDocument (loadDocument ["addr"]) = .ok catalog ∧
      Catalog.ofDocument (loadDocument ["addr", "size"]) = .ok other ∧
      Selection.ofDocument other (loadDocument ["addr", "size"]) = .ok selection ∧
      declare catalog (some selection) = .ok declarations ∧
      selection.choices = [⟨"load", ["addr", "size"]⟩] ∧
      declarations.map helperName = ["produce_8_64"] ∧
      ¬ List.Forall₂ Forwards selection.choices declarations := by
  refine ⟨⟨[⟨"load", [⟨"addr", 64⟩]⟩]⟩, ⟨[⟨"load", [⟨"addr", 64⟩, ⟨"size", 64⟩]⟩]⟩,
    ⟨[⟨"load", ["addr", "size"]⟩]⟩, [⟨"load", [⟨"addr", 64⟩], [⟨"addr", 64⟩]⟩],
    by decide +kernel, by decide +kernel, by decide +kernel, by decide +kernel, rfl,
    by decide +kernel, ?_⟩
  intro forwarded
  have size := (List.forall₂_cons.mp forwarded).1 "size"
  revert size
  decide +kernel

end Declaration

end ProfilingSession
