import ProfilingSession.Proofs.Declaration.Foreign
import ProfilingSession.Proofs.Selection.Contract

/-!
# Declarations depend on what is kept only

The names of the parameters that an analysis keeps can be written in any order, as the texts of a
list or as the keys of a mapping, and that there are none as null, as an empty list or as an empty
mapping. The selections that are read differ, since they have the names in the order in which they
are written, but the declarations do not: their payloads are in wire order. `declareEntry` makes the
declaration of an entry by itself, so that an order of the entries is one of the declarations.
-/

namespace ProfilingSession.Declaration

open Document (keys)
open Selection (Lists readChoice readNames_eq_ok readChoice_eq_ok)
open Specification (HasEvents Problem)

/-- Entries for one event that list the same names, each of them in its own way and order. -/
def Respelled (entry other : String × Document) : Prop :=
  entry.1 = other.1 ∧
    ∃ names others, Lists entry.2 names ∧ Lists other.2 others ∧ names.Perm others

/-- The declaration of the choice that an entry is read as. -/
def declareEntry (catalog : Catalog) (entry : String × Document) : Except Problem Declaration := do
  declareChoice catalog (← readChoice catalog entry)

variable {catalog : Catalog} {entry other : String × Document} {document : Document}
variable {events others : List (String × Document)} {declarations : List Declaration}

theorem respelled_null_list (event : String) : Respelled (event, .null) (event, .list []) :=
  ⟨rfl, [], [], .null, .list [], .nil⟩

theorem respelled_list_mapping (event : String) (names : List String)
    {entries : List (String × Document)} (perm : names.Perm (keys entries)) :
    Respelled (event, .list (names.map .text)) (event, .mapping entries) :=
  ⟨rfl, names, keys entries, .list names, .mapping entries, perm⟩

/-- What a choice keeps does not depend on the order of its names. -/
theorem keeps_congr {choice respelled : Choice}
    (names : choice.parameters.Perm respelled.parameters) : choice.keeps = respelled.keeps := by
  funext parameter
  simp [Choice.keeps, names.mem_iff]

theorem declareChoice_congr {choice respelled : Choice} (event : choice.event = respelled.event)
    (names : choice.parameters.Perm respelled.parameters) :
    declareChoice catalog choice = declareChoice catalog respelled := by
  rw [declareChoice, declareChoice, event, keeps_congr names]

theorem declareEntry_of_readChoice {choice : Choice}
    (read : readChoice catalog entry = .ok choice) :
    declareEntry catalog entry = declareChoice catalog choice := by
  rw [declareEntry, read]
  rfl

/-- An entry that is read is read in any other spelling, too, and declared alike. -/
theorem declareEntry_of_respelled {declaration : Declaration} (respelled : Respelled entry other)
    (declared : declareEntry catalog entry = .ok declaration) :
    declareEntry catalog other = .ok declaration := by
  obtain ⟨name, body⟩ := entry
  obtain ⟨name', body'⟩ := other
  obtain ⟨rfl, names, others, lists, lists', perm⟩ := respelled
  obtain ⟨choice, read, made⟩ := bind_eq_ok_iff.mp declared
  obtain ⟨chosen, written, event, found, fits⟩ := readChoice_eq_ok.mp read
  obtain rfl := lists.unique (readNames_eq_ok.mp written)
  have fits' : Choice.Fits ⟨name, others⟩ event := by
    refine ⟨fits.name.trans chosen, perm.nodup fits.differ, ?_⟩
    intro parameter mem
    exact fits.isParameter parameter (perm.mem_iff.mpr mem)
  have read' : readChoice catalog (name, body') = .ok ⟨name, others⟩ :=
    readChoice_eq_ok.mpr ⟨rfl, readNames_eq_ok.mpr lists', event, found, fits'⟩
  rw [declareEntry_of_readChoice read', ← made]
  exact (declareChoice_congr chosen perm).symm

theorem mapM_declareEntry_of_respelled (respelled : List.Forall₂ Respelled events others)
    (declared : events.mapM (declareEntry catalog) = .ok declarations) :
    others.mapM (declareEntry catalog) = .ok declarations := by
  rw [mapM_eq_ok_iff] at declared ⊢
  induction respelled generalizing declarations with
  | nil =>
    cases declared
    exact .nil
  | cons first _ ih =>
    cases declared with
    | cons made remaining => exact .cons (declareEntry_of_respelled first made) (ih remaining)

theorem declare_eq_mapM {selection : Selection}
    (each : List.Forall₂ (fun entry choice => readChoice catalog entry = .ok choice)
      events selection.choices) :
    declare catalog (some selection) = events.mapM (declareEntry catalog) := by
  rw [declare]
  generalize selection.choices = choices at each
  induction each with
  | nil => rfl
  | cons first _ ih =>
    rw [List.mapM_cons, List.mapM_cons, ih, declareEntry_of_readChoice first]

/-- A document whose entries are declared one by one is read and declared as a whole. -/
theorem exists_declare_of_mapM (has : HasEvents document events)
    (declared : events.mapM (declareEntry catalog) = .ok declarations) :
    ∃ selection, Selection.ofDocument catalog document = .ok selection ∧
      declare catalog (some selection) = .ok declarations := by
  obtain ⟨choices, read⟩ : ∃ choices, events.mapM (readChoice catalog) = .ok choices := by
    apply exists_mapM_eq_ok_iff.mpr
    intro entry mem
    obtain ⟨declaration, made⟩ := exists_mapM_eq_ok_iff.mp ⟨declarations, declared⟩ entry mem
    obtain ⟨choice, read, -⟩ := bind_eq_ok_iff.mp made
    exact ⟨choice, read⟩
  have each := mapM_eq_ok_iff.mp read
  exact ⟨⟨choices⟩, Selection.ofDocument_eq_ok.mpr ⟨events, has, each⟩,
    (declare_eq_mapM each).trans declared⟩

/-- A document that is accepted as a selection can be spelled anew without a difference to what is
declared: each body can list the same names in its own way and order, and entries in another order
give their declarations in that order, every one as it was. -/
theorem declare_of_respelled {selection : Selection}
    (read : Selection.ofDocument catalog document = .ok selection) :
    ∃ events declarations made, HasEvents document events ∧
      declare catalog (some selection) = .ok declarations ∧ declarations = events.map made ∧
      (∀ document' events', HasEvents document' events' → List.Forall₂ Respelled events events' →
        ∃ selection', Selection.ofDocument catalog document' = .ok selection' ∧
          declare catalog (some selection') = .ok declarations) ∧
      ∀ document' events', HasEvents document' events' → events'.Perm events →
        ∃ selection', Selection.ofDocument catalog document' = .ok selection' ∧
          declare catalog (some selection') = .ok (events'.map made) := by
  have : Inhabited Declaration := ⟨⟨"", [], []⟩⟩
  obtain ⟨events, has, each⟩ := Selection.ofDocument_eq_ok.mp read
  obtain ⟨declarations, declared⟩ := exists_declare_of_covers (covers_of_ofDocument read)
  have entries := (declare_eq_mapM each).symm.trans declared
  obtain ⟨made, same, alone⟩ := exists_map_of_mapM entries
  refine ⟨events, declarations, made, has, declared, same, ?_, ?_⟩
  · intro document' events' has' respelled
    exact exists_declare_of_mapM has' (mapM_declareEntry_of_respelled respelled entries)
  · intro document' events' has' perm
    apply exists_declare_of_mapM has'
    rw [mapM_eq_ok_iff, List.forall₂_map_right_iff, List.forall₂_same]
    intro entry mem
    exact alone entry (perm.mem_iff.mp mem)

/-- The selection of `reorderedDocument` with other bodies: an empty list for null, and keys in
another order for the texts of a list. -/
def keyedDocument : Document :=
  .mapping [("events", .mapping [
    ("loop_exit", .list []), ("load", .mapping [("instr", .int 8), ("size", .null)])])]

/-- The selection of `reorderedDocument` with its entries in the order of the catalog. -/
def turnedDocument : Document :=
  .mapping [("events", .mapping [
    ("load", .list [.text "size", .text "instr"]), ("loop_exit", .null)])]

theorem declare_of_keyed_and_turned :
    ∃ selection keyed turned declarations,
      Selection.ofDocument memoryCatalog reorderedDocument = .ok selection ∧
      declare memoryCatalog (some selection) = .ok declarations ∧
      Selection.ofDocument memoryCatalog keyedDocument = .ok keyed ∧
      declare memoryCatalog (some keyed) = .ok declarations ∧
      Selection.ofDocument memoryCatalog turnedDocument = .ok turned ∧
      declare memoryCatalog (some turned) = .ok declarations.reverse := by
  have read : Selection.ofDocument memoryCatalog reorderedDocument =
      .ok ⟨[⟨"loop_exit", []⟩, ⟨"load", ["size", "instr"]⟩]⟩ := by
    decide +kernel
  obtain ⟨events, declarations, made, has, declared, rfl, respelled, turned⟩ :=
    declare_of_respelled read
  obtain rfl : [("loop_exit", Document.null), ("load", .list [.text "size", .text "instr"])] =
      events := by
    simpa [Specification.hasEvents_iff, reorderedDocument, Document.get?, Document.lookup] using has
  have entries : List.Forall₂ Respelled
      [("loop_exit", .null), ("load", .list [.text "size", .text "instr"])]
      [("loop_exit", .list []), ("load", .mapping [("instr", .int 8), ("size", .null)])] :=
    .cons (respelled_null_list _)
      (.cons (respelled_list_mapping _ ["size", "instr"] (.swap _ _ _)) .nil)
  obtain ⟨keyed, readKeyed, sameKeyed⟩ :=
    respelled keyedDocument _ ⟨[], [], rfl, by simp [keys]⟩ entries
  obtain ⟨other, readTurned, sameTurned⟩ :=
    turned turnedDocument _ ⟨[], [], rfl, by simp [keys]⟩ (.swap _ _ _)
  exact ⟨_, keyed, other, _, read, declared, readKeyed, sameKeyed, readTurned, sameTurned⟩

end ProfilingSession.Declaration
