import ProfilingSession.Proofs.Selection.WellFormed

/-!
# Which documents are selections of a catalog

An entry of a selection has the name of an event of the catalog, and a body that lists parameters of
that event: as the texts of a list, as the keys of a mapping, or none of them as null. `IsChoice`
says so, and `Violation` says which problem is reported of a document otherwise: that of the first
entry, in the order of the document, that is no choice, and of that entry the first one when its
name, its body, the repeats in what it lists and then the names themselves are looked at in order.
-/

namespace ProfilingSession

open Specification (Problem)

variable {catalog : Catalog} {event : Event} {name : String}

theorem Catalog.event?_eq_none_iff :
    catalog.event? name = none ↔ ∀ event ∈ catalog.events, event.name ≠ name := by
  simp [event?]

theorem Catalog.WellFormed.event?_eq_some_iff (h : catalog.WellFormed) :
    catalog.event? name = some event ↔ event ∈ catalog.events ∧ event.name = name := by
  constructor
  · intro found
    exact event?_eq_some found
  · rintro ⟨mem, rfl⟩
    exact h.event?_name mem

namespace Selection

open Document (keys)
open Specification (Eventless HasEvents)

/-- A body of an entry with the names that it lists. -/
inductive Lists : Document → List String → Prop where
  | null : Lists .null []
  | mapping (entries : List (String × Document)) : Lists (.mapping entries) (keys entries)
  | list (names : List String) : Lists (.list (names.map .text)) names

/-- An entry that chooses parameters of an event, each of them once. -/
def IsChoice (catalog : Catalog) (entry : String × Document) : Prop :=
  ∃ event ∈ catalog.events, event.name = entry.1 ∧ ∃ names, Lists entry.2 names ∧ names.Nodup ∧
    ∀ name ∈ names, name ∈ event.parameters.map Parameter.name

/-- A choice is the one that is written in an entry: of the same event, with the same names in the
same order. -/
def IsWritten (entry : String × Document) (choice : Choice) : Prop :=
  entry.1 = choice.event ∧ Lists entry.2 choice.parameters

/-- What is wrong with an entry that is no choice: its name, else its body, else the first name that
it repeats, else the first name that is no parameter of the event. -/
inductive ChoiceViolation (catalog : Catalog) : String × Document → Problem → Prop where
  | event {name : String} {body : Document}
    (unknown : ∀ event ∈ catalog.events, event.name ≠ name) :
    ChoiceViolation catalog (name, body) (.unknownEvent name)
  | body {event : Event} {body : Document} (known : event ∈ catalog.events)
    (other : ∀ names, ¬ Lists body names) :
    ChoiceViolation catalog (event.name, body) (.badParameterList event.name)
  | repeated {event : Event} {body : Document} {names : List String} {name : String}
    (known : event ∈ catalog.events) (lists : Lists body names) (first : IsFirstRepeat names name) :
    ChoiceViolation catalog (event.name, body) (.repeatedParameter event.name name)
  | parameter {event : Event} {body : Document} {before after : List String} {name : String}
    (known : event ∈ catalog.events) (lists : Lists body (before ++ name :: after))
    (differ : (before ++ name :: after).Nodup)
    (right : ∀ other ∈ before, other ∈ event.parameters.map Parameter.name)
    (wrong : name ∉ event.parameters.map Parameter.name) :
    ChoiceViolation catalog (event.name, body) (.unknownParameter event.name name)

/-- What is wrong with a document that is no selection: that it has no events, else what is wrong
with the first of them that is no choice. -/
inductive Violation (catalog : Catalog) (document : Document) : Problem → Prop where
  | eventless {problem : Problem} (without : Eventless .selection document problem) :
    Violation catalog document problem
  | choice {before after : List (String × Document)} {entry : String × Document}
    {problem : Problem} (has : HasEvents document (before ++ entry :: after))
    (right : ∀ other ∈ before, IsChoice catalog other)
    (wrong : ChoiceViolation catalog entry problem) : Violation catalog document problem

variable {entry : String × Document} {body : Document} {names : List String} {problem : Problem}

/-! Bodies -/

theorem readName_eq_ok {event : String} {item : Document} :
    readName event item = .ok name ↔ item = .text name := by
  cases item <;> simp [readName]

theorem readName_eq_error {event : String} {item : Document}
    (failed : readName event item = .error problem) : problem = .badParameterList event := by
  cases item <;> simp_all [readName]

theorem readNames_eq_ok {event : String} :
    readNames event body = .ok names ↔ Lists body names := by
  constructor
  · intro read
    cases body with
    | null =>
      cases read
      exact .null
    | mapping entries =>
      cases read
      exact .mapping entries
    | list items =>
      have each := mapM_eq_ok_iff.mp read
      simp only [readName_eq_ok] at each
      rw [← List.forall₂_map_right_iff (R := Eq), List.forall₂_eq_eq_eq] at each
      rw [each]
      exact .list names
    | _ => cases read
  · intro lists
    cases lists with
    | null => rfl
    | mapping entries => rfl
    | list names =>
      apply mapM_eq_ok_iff.mpr
      simp [List.forall₂_map_left_iff, List.forall₂_same, readName_eq_ok]

theorem Lists.unique {others : List String} (lists : Lists body names)
    (lists' : Lists body others) : names = others := by
  have read : readNames "" body = .ok names := readNames_eq_ok.mpr lists
  rw [readNames_eq_ok.mpr lists'] at read
  exact (Except.ok.inj read).symm

theorem eq_badParameterList_of_readNames {event : String}
    (failed : readNames event body = .error problem) : problem = .badParameterList event := by
  cases body with
  | list items =>
    obtain ⟨_, item, _, -, -, failed⟩ := mapM_eq_error_iff.mp failed
    exact readName_eq_error failed
  | _ => simp_all [readNames]

theorem readNames_eq_error {event : String} :
    readNames event body = .error problem ↔
      (∀ names, ¬ Lists body names) ∧ problem = .badParameterList event := by
  constructor
  · intro failed
    refine ⟨?_, eq_badParameterList_of_readNames failed⟩
    intro names lists
    rw [readNames_eq_ok.mpr lists] at failed
    cases failed
  · rintro ⟨other, rfl⟩
    cases read : readNames event body with
    | ok names => exact absurd (readNames_eq_ok.mp read) (other names)
    | error problem => rw [eq_badParameterList_of_readNames read]

/-! Names -/

theorem find?_isNone_eq_some_iff :
    (names.find? fun name => (event.parameter? name).isNone) = some name ↔
      ∃ before after, names = before ++ name :: after ∧
        (∀ other ∈ before, other ∈ event.parameters.map Parameter.name) ∧
        name ∉ event.parameters.map Parameter.name := by
  have known : ∀ other, (!(event.parameter? other).isNone) = true ↔
      other ∈ event.parameters.map Parameter.name := by
    intro other
    rw [Bool.not_eq_true', ← Bool.not_eq_true, Option.isNone_iff_eq_none,
      Event.parameter?_eq_none_iff, not_not]
  simp only [List.find?_eq_some_iff_append, Option.isNone_iff_eq_none,
    Event.parameter?_eq_none_iff, known]
  constructor
  · rintro ⟨wrong, before, after, shape, right⟩
    exact ⟨before, after, shape, right, wrong⟩
  · rintro ⟨before, after, shape, right, wrong⟩
    exact ⟨wrong, before, after, shape, right⟩

/-- Repeats are looked for in all names before any of them is looked up. -/
theorem checkNames_eq_error :
    checkNames event names = .error problem ↔
      (∃ name, IsFirstRepeat names name ∧ problem = .repeatedParameter event.name name) ∨
        names.Nodup ∧ ∃ before name after, names = before ++ name :: after ∧
          (∀ other ∈ before, other ∈ event.parameters.map Parameter.name) ∧
          name ∉ event.parameters.map Parameter.name ∧
          problem = .unknownParameter event.name name := by
  have unknown : (∃ name, (names.find? fun name => (event.parameter? name).isNone) = some name ∧
        problem = .unknownParameter event.name name) ↔
      ∃ before name after, names = before ++ name :: after ∧
        (∀ other ∈ before, other ∈ event.parameters.map Parameter.name) ∧
        name ∉ event.parameters.map Parameter.name ∧
        problem = .unknownParameter event.name name := by
    simp only [find?_isNone_eq_some_iff]
    constructor
    · rintro ⟨name, ⟨before, after, shape, right, wrong⟩, same⟩
      exact ⟨before, name, after, shape, right, wrong, same⟩
    · rintro ⟨before, name, after, shape, right, wrong, same⟩
      exact ⟨name, ⟨before, after, shape, right, wrong⟩, same⟩
  rw [← unknown, checkNames]
  simp only [← firstRepeat_eq_some_iff, ← firstRepeat_eq_none_iff]
  cases firstRepeat names with
  | some name => simp [eq_comm]
  | none =>
    cases names.find? fun name => (event.parameter? name).isNone with
    | some name => simp [eq_comm]
    | none => simp

/-! Entries -/

theorem exists_readChoice_iff (wellFormed : catalog.WellFormed) :
    (∃ choice, readChoice catalog entry = .ok choice) ↔ IsChoice catalog entry := by
  simp only [readChoice_eq_ok, readNames_eq_ok, wellFormed.event?_eq_some_iff]
  constructor
  · rintro ⟨choice, same, lists, event, ⟨mem, named⟩, fits⟩
    exact ⟨event, mem, named, choice.parameters, lists, fits.differ, fits.isParameter⟩
  · rintro ⟨event, mem, named, names, lists, differ, isParameter⟩
    exact ⟨⟨entry.1, names⟩, rfl, lists, event, ⟨mem, named⟩, named, differ, isParameter⟩

/-- The body of an entry is looked at once its event is found, and then the names in it. -/
theorem readChoice_eq_error_of_event (found : catalog.event? entry.1 = some event) :
    readChoice catalog entry = .error problem ↔
      (∀ names, ¬ Lists entry.2 names) ∧ problem = .badParameterList entry.1 ∨
        ∃ names, Lists entry.2 names ∧ checkNames event names = .error problem := by
  rw [readChoice, found]
  simp only [bind_eq_error_iff, readNames_eq_error, readNames_eq_ok, pure, Except.pure,
    reduceCtorEq, and_false, exists_false, or_false]

theorem readChoice_eq_error (wellFormed : catalog.WellFormed) :
    readChoice catalog entry = .error problem ↔ ChoiceViolation catalog entry problem := by
  obtain ⟨name, body⟩ := entry
  constructor
  · intro failed
    cases found : catalog.event? name with
    | none =>
      rw [readChoice, found] at failed
      cases failed
      exact .event (Catalog.event?_eq_none_iff.mp found)
    | some event =>
      obtain ⟨known, rfl⟩ := Catalog.event?_eq_some found
      rcases (readChoice_eq_error_of_event found).mp failed with
        ⟨other, rfl⟩ | ⟨names, lists, failed⟩
      · exact .body known other
      · rcases checkNames_eq_error.mp failed with
          ⟨name, first, rfl⟩ | ⟨differ, before, name, after, rfl, right, wrong, rfl⟩
        · exact .repeated known lists first
        · exact .parameter known lists differ right wrong
  · intro wrong
    cases wrong with
    | event unknown => rw [readChoice, Catalog.event?_eq_none_iff.mpr unknown]
    | body known other =>
      rw [readChoice_eq_error_of_event (wellFormed.event?_name known)]
      exact .inl ⟨other, rfl⟩
    | repeated known lists first =>
      rw [readChoice_eq_error_of_event (wellFormed.event?_name known)]
      exact .inr ⟨_, lists, checkNames_eq_error.mpr (.inl ⟨_, first, rfl⟩)⟩
    | parameter known lists differ right wrong =>
      rw [readChoice_eq_error_of_event (wellFormed.event?_name known)]
      exact .inr ⟨_, lists, checkNames_eq_error.mpr
        (.inr ⟨differ, _, _, _, rfl, right, wrong, rfl⟩)⟩

/-! Documents -/

theorem ofDocument_eq_ok {document : Document} {selection : Selection} :
    ofDocument catalog document = .ok selection ↔
      ∃ events, HasEvents document events ∧
        List.Forall₂ (fun entry choice => readChoice catalog entry = .ok choice)
          events selection.choices := by
  simp only [ofDocument, bind_eq_ok_iff, Specification.eventsOf_eq_ok_iff, mapM_eq_ok_iff, pure,
    Except.pure, Except.ok.injEq]
  constructor
  · rintro ⟨events, has, choices, read, rfl⟩
    exact ⟨events, has, read⟩
  · rintro ⟨events, has, read⟩
    exact ⟨events, has, selection.choices, read, rfl⟩

theorem exists_ofDocument_iff (wellFormed : catalog.WellFormed) {document : Document} :
    (∃ selection, ofDocument catalog document = .ok selection) ↔
      ∃ events, HasEvents document events ∧ ∀ entry ∈ events, IsChoice catalog entry := by
  simp only [ofDocument_eq_ok, ← exists_readChoice_iff wellFormed, ← exists_mapM_eq_ok_iff,
    mapM_eq_ok_iff]
  constructor
  · rintro ⟨selection, events, has, read⟩
    exact ⟨events, has, selection.choices, read⟩
  · rintro ⟨events, has, choices, read⟩
    exact ⟨⟨choices⟩, events, has, read⟩

theorem ofDocument_eq_error (wellFormed : catalog.WellFormed) {document : Document} :
    ofDocument catalog document = .error problem ↔ Violation catalog document problem := by
  simp only [ofDocument, bind_eq_error_iff, Specification.eventsOf_eq_error_iff,
    Specification.eventsOf_eq_ok_iff, pure, Except.pure, reduceCtorEq, and_false, exists_false,
    or_false, mapM_eq_error_iff, exists_readChoice_iff wellFormed, readChoice_eq_error wellFormed]
  constructor
  · rintro (without | ⟨_, has, before, entry, after, rfl, right, wrong⟩)
    · exact .eventless without
    · exact .choice has right wrong
  · intro wrong
    cases wrong with
    | eventless without => exact .inl without
    | choice has right wrong => exact .inr ⟨_, has, _, _, _, rfl, right, wrong⟩

/-- Against a catalog that was read, a document is accepted as a selection if, and only if, all its
events are choices of parameters of that catalog, and the selection lists them as they are written;
otherwise the first violation is reported. -/
theorem ofDocument_against_iff {source : Document} (differ : source.Unambiguous)
    (accepted : Catalog.ofDocument source = .ok catalog) (document : Document) :
    ((∃ selection, ofDocument catalog document = .ok selection) ↔
        ∃ events, HasEvents document events ∧ ∀ entry ∈ events, IsChoice catalog entry) ∧
      (∀ selection, ofDocument catalog document = .ok selection →
        ∃ events, HasEvents document events ∧
          List.Forall₂ IsWritten events selection.choices) ∧
      ∀ problem, ofDocument catalog document = .error problem ↔
        Violation catalog document problem := by
  have wellFormed := Catalog.wellFormed_of_ofDocument
    (Document.repeatedKey_eq_none_iff.mpr differ) accepted
  refine ⟨exists_ofDocument_iff wellFormed, ?_, fun problem => ofDocument_eq_error wellFormed⟩
  intro selection read
  obtain ⟨events, has, each⟩ := ofDocument_eq_ok.mp read
  refine ⟨events, has, each.imp ?_⟩
  intro entry choice chosen
  obtain ⟨same, names, -⟩ := readChoice_eq_ok.mp chosen
  exact ⟨same.symm, readNames_eq_ok.mp names⟩

/-- A catalog of two events of which one has no parameters, as a document. -/
def loopDocument : Document :=
  .mapping [("events", .mapping [("loop_enter", .mapping [("id", .int 32)]), ("loop_exit", .null)])]

/-- The body of `loop_exit` lists a name twice, which is no parameter of the event either. -/
def twiceDocument : Document :=
  .mapping [("events", .mapping [
    ("loop_enter", .mapping [("id", .null)]), ("loop_exit", .list [.text "id", .text "id"])])]

/-- The repeat is reported, and not that the name is unknown. -/
theorem violation_of_name_twice :
    ∃ catalog, loopDocument.Unambiguous ∧ Catalog.ofDocument loopDocument = .ok catalog ∧
      (∃ events, HasEvents loopDocument events ∧ ∀ entry ∈ events, IsChoice catalog entry) ∧
      ofDocument catalog twiceDocument = .error (.repeatedParameter "loop_exit" "id") ∧
      Violation catalog twiceDocument (.repeatedParameter "loop_exit" "id") := by
  have differ : loopDocument.Unambiguous :=
    Document.repeatedKey_eq_none_iff.mp (by decide +kernel)
  have accepted : Catalog.ofDocument loopDocument =
      .ok ⟨[⟨"loop_enter", [⟨"id", 32⟩]⟩, ⟨"loop_exit", []⟩]⟩ := by
    decide +kernel
  have chosen : ofDocument ⟨[⟨"loop_enter", [⟨"id", 32⟩]⟩, ⟨"loop_exit", []⟩]⟩ loopDocument =
      .ok ⟨[⟨"loop_enter", ["id"]⟩, ⟨"loop_exit", []⟩]⟩ := by
    decide +kernel
  have refused : ofDocument ⟨[⟨"loop_enter", [⟨"id", 32⟩]⟩, ⟨"loop_exit", []⟩]⟩ twiceDocument =
      .error (.repeatedParameter "loop_exit" "id") := by
    decide +kernel
  obtain ⟨accepts, -, -⟩ := ofDocument_against_iff differ accepted loopDocument
  obtain ⟨-, -, refuses⟩ := ofDocument_against_iff differ accepted twiceDocument
  exact ⟨_, differ, accepted, accepts.mp ⟨_, chosen⟩, refused, (refuses _).mp refused⟩

end Selection

end ProfilingSession
