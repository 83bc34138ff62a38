import ProfilingSession.Proofs.Document.Equality
import ProfilingSession.Proofs.Document.JsonNumbers
import ProfilingSession.Proofs.Specification.Kept

/-!
# Events whose body is a scalar

Null as the body of an event stands for no parameters, and no other scalar should. `Refused` says
that an event with such a body is reported, once those before it are right; `TakenForNull` says that
it is read as if it had no parameters. Which of the two holds is decided by what is kept of a
document: `parse_of_scalar_body` says that a text with a scalar body is refused unless the body is a
number that is not finite, which only YAML can write, and that it is taken for null then.
-/

namespace ProfilingSession.Document

variable {document : Document}

def IsScalar : Document → Prop
  | .bool _ | .int _ | .float _ | .text _ => True
  | _ => False

def NotFinite (document : Document) : Prop :=
  ∃ x, document = .float x ∧ x.isFinite = false

/-- A scalar is kept as it is, or it is a number that is kept as null. -/
theorem IsScalar.finite_eq (scalar : document.IsScalar) (finite : ¬ document.NotFinite) :
    document.finite = document := by
  cases document with
  | float x =>
    have isFinite : x.isFinite = true := by
      cases other : x.isFinite with
      | true => rfl
      | false => exact absurd ⟨x, rfl, other⟩ finite
    exact (finite_float_iff.mpr isFinite).finite_eq
  | null => rfl
  | bool value => rfl
  | int value => rfl
  | text value => rfl
  | _ => cases scalar

theorem NotFinite.finite_eq (h : document.NotFinite) : document.finite = .null :=
  finite_eq_null_iff.mpr (.inr h)

/-- Only YAML has numbers that are not finite. -/
theorem Format.eq_yaml_of_notFinite {format : Format} {text : String} {part : Document}
    (read : format.written text = .ok document) (inside : Inside part document)
    (h : part.NotFinite) : format = .yaml := by
  obtain ⟨x, rfl, notFinite⟩ := h
  cases format with
  | yaml => rfl
  | json =>
    have isFinite := Json.finite_of_read (written_json_eq_ok_iff.mp read) x inside
    rw [notFinite] at isFinite
    cases isFinite

end ProfilingSession.Document

namespace ProfilingSession

open Decimal (Binary64)
open Document (Format NotFinite finiteEntries keys)
open Specification (HasEvents)

variable {format : Format} {text name : String} {written document body : Document}
variable {before after : List (String × Document)}

/-! Bodies -/

theorem Document.IsScalar.not_isBody (scalar : body.IsScalar) (entries : List (String × Document)) :
    ¬ Catalog.IsBody body entries := by
  intro isBody
  cases isBody <;> cases scalar

theorem Document.IsScalar.not_lists (scalar : body.IsScalar) (names : List String) :
    ¬ Selection.Lists body names := by
  intro lists
  cases lists <;> cases scalar

namespace Specification

/-- An event is refused for its body: no catalog and no selection is read, and the event is what is
reported if those before it are right and nothing else is wrong with it. -/
structure Refused (format : Format) (text : String) (before : List (String × Document))
    (name : String) : Prop where
  noCatalog : ∀ catalog, Catalog.parse format text ≠ .ok catalog
  catalogProblem : Catalog.Contract before → Text.IsIdentifier name →
    ¬ Catalog.IsTaken (keys before) name →
    Catalog.parse format text = .error (.parametersNotMapping name)
  noSelection : ∀ catalog selection, Selection.parse catalog format text ≠ .ok selection
  selectionProblem : ∀ catalog : Catalog, catalog.WellFormed →
    (∀ entry ∈ before, Selection.IsChoice catalog entry) →
    name ∈ catalog.events.map Event.name →
    Selection.parse catalog format text = .error (.badParameterList name)

/-- An event is read as if its body were null: a catalog has it without parameters, a selection
chooses none of it, and its body keeps neither from being read. -/
structure TakenForNull (format : Format) (text : String) (before : List (String × Document))
    (name : String) (after : List (String × Document)) : Prop where
  exists_catalog_iff : (∃ catalog, Catalog.parse format text = .ok catalog) ↔
    Catalog.Contract (finiteEntries before ++ (name, .null) :: finiteEntries after)
  event : ∀ catalog, Catalog.parse format text = .ok catalog → ⟨name, []⟩ ∈ catalog.events
  exists_selection_iff : ∀ catalog : Catalog, catalog.WellFormed →
    ((∃ selection, Selection.parse catalog format text = .ok selection) ↔
      ∀ entry ∈ finiteEntries before ++ (name, .null) :: finiteEntries after,
        Selection.IsChoice catalog entry)
  choice : ∀ catalog selection, Selection.parse catalog format text = .ok selection →
    ⟨name, []⟩ ∈ selection.choices

variable (read : Specification.parse format text = .ok document)
include read

theorem refused_of_isScalar
    (has : HasEvents document (finiteEntries before ++ (name, body) :: after))
    (scalar : body.IsScalar) : Refused format text before name where
  noCatalog catalog ok := by
    rw [Catalog.parse_eq_readEvents read has, map_eq_ok_iff] at ok
    obtain ⟨events, ok, -⟩ := ok
    have fit := Catalog.exists_readEvents_iff.mp ⟨events, ok⟩
    obtain ⟨-, entries, isBody, -⟩ := fit.contract.isEvent (name, body) (by simp)
    exact scalar.not_isBody entries isBody
  catalogProblem right named fresh := by
    rw [right.finiteEntries_eq] at has
    rw [Catalog.parse_eq_readEvents read has, map_eq_error_iff, Catalog.readEvents_eq_error]
    refine ⟨before, (name, body), after, rfl, Catalog.fitAfter_nil_iff.mpr right, ?_⟩
    rw [List.append_nil]
    exact .body named fresh scalar.not_isBody
  noSelection catalog selection ok := by
    rw [Selection.parse_eq_mapM read has, map_eq_ok_iff] at ok
    obtain ⟨choices, ok, -⟩ := ok
    obtain ⟨choice, chosen⟩ := exists_mapM_eq_ok_iff.mp ⟨choices, ok⟩ (name, body) (by simp)
    obtain ⟨-, names, -⟩ := Selection.readChoice_eq_ok.mp chosen
    exact scalar.not_lists _ (Selection.readNames_eq_ok.mp names)
  selectionProblem catalog wellFormed right known := by
    obtain ⟨event, mem, rfl⟩ := List.mem_map.mp known
    rw [Selection.parse_eq_mapM read has, map_eq_error_iff, mapM_eq_error_iff]
    refine ⟨finiteEntries before, (event.name, body), after, rfl, ?_, ?_⟩
    · intro other mem
      exact (Selection.exists_readChoice_iff wellFormed).mpr
        (Selection.isChoice_finiteEntries right other mem)
    · exact (Selection.readChoice_eq_error wellFormed).mpr (.body mem scalar.not_lists)

theorem takenForNull
    (has : HasEvents document (finiteEntries before ++ (name, .null) :: finiteEntries after)) :
    TakenForNull format text before name after where
  exists_catalog_iff := by
    rw [← Catalog.fitAfter_nil_iff, ← Catalog.exists_readEvents_iff,
      Catalog.parse_eq_readEvents read has]
    simp only [map_eq_ok_iff]
    exact ⟨fun ⟨_, events, ok, _⟩ => ⟨events, ok⟩, fun ⟨events, ok⟩ => ⟨_, events, ok, rfl⟩⟩
  event catalog ok := by
    rw [Catalog.parse_eq_readEvents read has, map_eq_ok_iff] at ok
    obtain ⟨events, ok, rfl⟩ := ok
    have each := (Catalog.forall₂_isWritten_of_readEvents ok).flip
    obtain ⟨⟨name', parameters⟩, mem, named, isBody⟩ :=
      exists_of_mem_forall₂ each (List.mem_append_right _ List.mem_cons_self)
    obtain rfl : name = name' := named
    cases parameters with
    | nil => exact mem
    | cons parameter rest => cases isBody
  exists_selection_iff catalog wellFormed := by
    rw [Selection.parse_eq_mapM read has]
    simp only [map_eq_ok_iff, ← Selection.exists_readChoice_iff wellFormed,
      ← exists_mapM_eq_ok_iff]
    exact ⟨fun ⟨_, choices, ok, _⟩ => ⟨choices, ok⟩, fun ⟨choices, ok⟩ => ⟨_, choices, ok, rfl⟩⟩
  choice catalog selection ok := by
    rw [Selection.parse_eq_mapM read has, map_eq_ok_iff] at ok
    obtain ⟨choices, ok, rfl⟩ := ok
    have each := (mapM_eq_ok_iff.mp ok).flip
    obtain ⟨⟨name', names⟩, mem, chosen⟩ :=
      exists_of_mem_forall₂ each (List.mem_append_right _ List.mem_cons_self)
    obtain ⟨named, lists, -⟩ := Selection.readChoice_eq_ok.mp chosen
    obtain rfl : name' = name := named
    cases lists
    exact mem

omit read

/-- In a text without repeated keys, an event whose body is a scalar other than null is refused,
unless the body is a number that is not finite: such a number is taken for null. No text in JSON
has one. -/
theorem parse_of_scalar_body (read : format.written text = .ok written)
    (differ : written.Unambiguous) (has : HasEvents written (before ++ (name, body) :: after))
    (scalar : body.IsScalar) :
    (¬ body.NotFinite → Refused format text before name) ∧
      (body.NotFinite → format = .yaml ∧ TakenForNull format text before name after) := by
  have kept := parse_eq_ok read differ
  have events := has.finite
  rw [Document.finiteEntries_append_cons] at events
  constructor
  · intro finite
    rw [scalar.finite_eq finite] at events
    exact refused_of_isScalar kept events scalar
  · intro notFinite
    have inside : Document.Inside body written := by
      obtain ⟨above, below, rfl, -⟩ := has
      exact .value (List.mem_append_right above List.mem_cons_self)
        (.value (List.mem_append_right before List.mem_cons_self) .whole)
    rw [notFinite.finite_eq] at events
    exact ⟨Format.eq_yaml_of_notFinite read inside notFinite, takenForNull kept events⟩

def bodyDocument (body : Document) : Document :=
  .mapping [("events", .mapping [("load", body)])]

theorem hasEvents_bodyDocument (body : Document) :
    HasEvents (bodyDocument body) ([] ++ ("load", body) :: []) :=
  ⟨[], [], rfl, List.not_mem_nil⟩

def notANumber : Binary64 := ⟨false, Binary64.infinite + Nat.pow 2 51⟩

theorem parse_of_true_and_nan_bodies :
    Refused .json "\x7b\"events\":\x7b\"load\":true\x7d\x7d" [] "load" ∧
      TakenForNull .yaml "events:\n  load: .nan\n" [] "load" [] := by
  have truth : Format.written .json "\x7b\"events\":\x7b\"load\":true\x7d\x7d" =
      .ok (bodyDocument (.bool true)) := by
    decide +kernel
  have nan : Format.written .yaml "events:\n  load: .nan\n" =
      .ok (bodyDocument (.float notANumber)) := by
    decide +kernel
  have differ : ∀ body, body.IsScalar → (bodyDocument body).Unambiguous := by
    intro body scalar
    rw [← Document.repeatedKey_eq_none_iff]
    cases body <;> first | rfl | cases scalar
  obtain ⟨refused, -⟩ := parse_of_scalar_body truth (differ _ trivial)
    (hasEvents_bodyDocument _) trivial
  obtain ⟨-, taken⟩ := parse_of_scalar_body nan (differ _ trivial)
    (hasEvents_bodyDocument _) trivial
  refine ⟨refused ?_, (taken ⟨notANumber, rfl, by decide +kernel⟩).2⟩
  rintro ⟨x, ⟨⟩, -⟩

/-- A number as the body of the only event, and neither the catalog nor the selection is refused. -/
theorem exists_body_taken_for_null :
    ∃ written, Format.written .yaml "events:\n  load: .nan\n" = .ok written ∧
      written.Unambiguous ∧ HasEvents written [("load", .float notANumber)] ∧
      Text.IsIdentifier "load" ∧
      Catalog.parse .yaml "events:\n  load: .nan\n" = .ok ⟨[⟨"load", []⟩]⟩ ∧
      Selection.parse ⟨[⟨"load", []⟩]⟩ .yaml "events:\n  load: .nan\n" =
        .ok ⟨[⟨"load", []⟩]⟩ := by
  refine ⟨bodyDocument (.float notANumber), by decide +kernel, ?_, hasEvents_bodyDocument _, ?_,
    by decide +kernel, by decide +kernel⟩
  · exact Document.repeatedKey_eq_none_iff.mp (by decide +kernel)
  · exact Text.isIdentifier_iff.mp (by decide +kernel)

end Specification

end ProfilingSession
