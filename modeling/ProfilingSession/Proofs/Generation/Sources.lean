import ProfilingSession.Generation
import ProfilingSession.Proofs.FileTree.Within
import ProfilingSession.Proofs.Header.RoundTrip
import ProfilingSession.Proofs.Specification.Refusals

/-!
# What headers are made from

A request reads the catalog, the selection of its analysis and the text to start with, and makes the
header of them (`header_eq_ok_iff`). All it takes from a tree is whether there is the directory of
specifications, and the texts of its inputs, so that it makes the same header in every other tree
that has these (`Reads.of_texts`).
-/

namespace ProfilingSession

open FileTree (Path)

variable {tree other : FileTree} {path : Path} {document : Document} {catalog : Catalog}
variable {selection : Selection}

theorem Specification.load_eq_ok_iff :
    Specification.load tree path = .ok document ↔ ∃ format text, formatOf path = .ok format ∧
      tree.text path = .ok text ∧ parse format text = .ok document := by
  simp only [Specification.load, bind_eq_ok_iff, mapError_eq_ok_iff]
  constructor
  · rintro ⟨format, written, text, read, parsed⟩
    exact ⟨format, text, written, read, parsed⟩
  · rintro ⟨format, text, written, read, parsed⟩
    exact ⟨format, written, text, read, parsed⟩

theorem Catalog.load_eq_ok_iff :
    Catalog.load tree path = .ok catalog ↔
      ∃ document, Specification.load tree path = .ok document ∧
        Catalog.ofDocument document = .ok catalog :=
  bind_eq_ok_iff

theorem Selection.load_eq_ok_iff :
    Selection.load catalog tree path = .ok selection ↔
      ∃ document, Specification.load tree path = .ok document ∧
        Selection.ofDocument catalog document = .ok selection :=
  bind_eq_ok_iff

theorem Specification.exists_text_of_load (loaded : Specification.load tree path = .ok document) :
    ∃ text, tree.text path = .ok text := by
  obtain ⟨format, text, -, read, -⟩ := load_eq_ok_iff.mp loaded
  exact ⟨text, read⟩

theorem Specification.unambiguous_of_load (loaded : Specification.load tree path = .ok document) :
    document.Unambiguous := by
  obtain ⟨format, text, -, -, parsed⟩ := load_eq_ok_iff.mp loaded
  obtain ⟨written, -, checked⟩ := bind_eq_ok_iff.mp parsed
  obtain ⟨differ, rfl⟩ := checkNames_eq_ok_iff.mp checked
  exact differ

/-- A specification is the same in another tree with the same text at its path. -/
theorem Specification.load_of_text
    (kept : ∀ text, tree.text path = .ok text → other.text path = .ok text)
    (loaded : Specification.load tree path = .ok document) :
    Specification.load other path = .ok document := by
  obtain ⟨format, text, written, read, parsed⟩ := load_eq_ok_iff.mp loaded
  exact load_eq_ok_iff.mpr ⟨format, text, written, kept text read, parsed⟩

theorem Catalog.load_of_text
    (kept : ∀ text, tree.text path = .ok text → other.text path = .ok text)
    (loaded : Catalog.load tree path = .ok catalog) : Catalog.load other path = .ok catalog := by
  obtain ⟨document, loaded, accepted⟩ := load_eq_ok_iff.mp loaded
  exact load_eq_ok_iff.mpr ⟨document, Specification.load_of_text kept loaded, accepted⟩

theorem Selection.load_of_text
    (kept : ∀ text, tree.text path = .ok text → other.text path = .ok text)
    (loaded : Selection.load catalog tree path = .ok selection) :
    Selection.load catalog other path = .ok selection := by
  obtain ⟨document, loaded, accepted⟩ := load_eq_ok_iff.mp loaded
  exact load_eq_ok_iff.mpr ⟨document, Specification.load_of_text kept loaded, accepted⟩

namespace Generation

def Request.inputs (request : Request) : List Path :=
  Path.join request.directory Catalog.fileName ::
    (request.profiler.map (selectionPath request.directory)).toList ++ request.template.toList

/-- What a request reads in a tree, and the declarations that it makes. -/
structure Reads (request : Request) (tree : FileTree) (catalog : Catalog)
    (selection : Option Selection) (declarations : List Declaration) (prelude : Option String) :
    Prop where
  isThere : tree.hasDirectory request.directory = true
  loaded : Catalog.load tree (Path.join request.directory Catalog.fileName) = .ok catalog
  chosen : (request.profiler.mapM fun profiler =>
    Selection.load catalog tree (selectionPath request.directory profiler)) = .ok selection
  declared : declare catalog selection = .ok declarations
  opens : request.template.mapM tree.text = .ok prelude

variable {request : Request} {selection : Option Selection} {declarations : List Declaration}
variable {prelude : Option String} {text : String} {count : Nat}

theorem declarations_eq_ok_iff :
    Generation.declarations request tree = .ok declarations ↔
      tree.hasDirectory request.directory = true ∧ ∃ catalog selection,
        Catalog.load tree (Path.join request.directory Catalog.fileName) = .ok catalog ∧
        (request.profiler.mapM fun profiler =>
          Selection.load catalog tree (selectionPath request.directory profiler)) =
            .ok selection ∧
        declare catalog selection = .ok declarations := by
  unfold Generation.declarations
  split
  · next there =>
    simp only [there, true_and, bind_eq_ok_iff, mapError_eq_ok_iff]
    cases request.profiler <;>
      simp [Option.mapM, pure, Except.pure, Functor.map, map_eq_ok_iff, mapError_eq_ok_iff]
  · next missing => simp [missing]

theorem preludeOf_eq_ok_iff :
    preludeOf request tree = .ok prelude ↔ request.template.mapM tree.text = .ok prelude := by
  unfold preludeOf
  cases request.template <;>
    simp [Option.mapM, pure, Except.pure, Functor.map, map_eq_ok_iff, mapError_eq_ok_iff]

/-- The header that a request asks for is made of what it reads. -/
theorem header_eq_ok_iff :
    header request tree = .ok (text, count) ↔
      ∃ catalog selection declarations prelude,
        Reads request tree catalog selection declarations prelude ∧
        text = Header.render prelude declarations ∧ count = declarations.length := by
  simp only [header, bind_eq_ok_iff, pure, Except.pure, Except.ok.injEq, Prod.mk.injEq,
    declarations_eq_ok_iff, preludeOf_eq_ok_iff]
  constructor
  · rintro ⟨declarations, ⟨there, catalog, selection, loaded, chosen, declared⟩, prelude, read,
      made, counted⟩
    exact ⟨catalog, selection, declarations, prelude, ⟨there, loaded, chosen, declared, read⟩,
      made.symm, counted.symm⟩
  · rintro ⟨catalog, selection, declarations, prelude, reads, rfl, rfl⟩
    exact ⟨declarations, ⟨reads.isThere, catalog, selection, reads.loaded, reads.chosen,
      reads.declared⟩, prelude, reads.opens, rfl, rfl⟩

namespace Reads

/-- All inputs of a request have to be texts. -/
theorem exists_text (reads : Reads request tree catalog selection declarations prelude)
    {input : Path} (mem : input ∈ request.inputs) : ∃ text, tree.text input = .ok text := by
  obtain ⟨profiler?, directory, template?, output⟩ := request
  simp only [Request.inputs, List.cons_append, List.mem_cons, List.mem_append,
    Option.mem_toList, Option.map_eq_some_iff] at mem
  rcases mem with rfl | ⟨profiler, rfl, rfl⟩ | rfl
  · obtain ⟨document, loaded, -⟩ := Catalog.load_eq_ok_iff.mp reads.loaded
    exact Specification.exists_text_of_load loaded
  · obtain ⟨chosen, loaded, -⟩ := mapM_some_eq_ok_iff.mp reads.chosen
    obtain ⟨document, loaded, -⟩ := Selection.load_eq_ok_iff.mp loaded
    exact Specification.exists_text_of_load loaded
  · obtain ⟨text, read, -⟩ := mapM_some_eq_ok_iff.mp reads.opens
    exact ⟨text, read⟩

/-- A request reads the same in another tree with the same texts. -/
theorem of_texts (reads : Reads request tree catalog selection declarations prelude)
    (there : other.hasDirectory request.directory = true)
    (kept : ∀ input ∈ request.inputs, ∀ text,
      tree.text input = .ok text → other.text input = .ok text) :
    Reads request other catalog selection declarations prelude := by
  obtain ⟨profiler?, directory, template?, output⟩ := request
  simp only [Request.inputs, List.cons_append, List.forall_mem_cons, List.forall_mem_append,
    Option.mem_toList, Option.map_eq_some_iff] at kept
  obtain ⟨keptCatalog, keptSelection, keptTemplate⟩ := kept
  refine ⟨there, Catalog.load_of_text keptCatalog reads.loaded, ?_, reads.declared, ?_⟩
  · cases profiler? with
    | none =>
      have nothing : Except.ok none = Except.ok selection := reads.chosen
      exact nothing
    | some profiler =>
      have kept := keptSelection (selectionPath directory profiler) ⟨profiler, rfl, rfl⟩
      obtain ⟨chosen, loaded, same⟩ := mapM_some_eq_ok_iff.mp reads.chosen
      exact mapM_some_eq_ok_iff.mpr ⟨chosen, Selection.load_of_text kept loaded, same⟩
  · cases template? with
    | none =>
      have nothing : Except.ok none = Except.ok prelude := reads.opens
      exact nothing
    | some template =>
      obtain ⟨text, read, same⟩ := mapM_some_eq_ok_iff.mp reads.opens
      exact mapM_some_eq_ok_iff.mpr ⟨text, keptTemplate template rfl text read, same⟩

/-- The declarations of a request are well-formed. -/
theorem wellFormed (reads : Reads request tree catalog selection declarations prelude) :
    Header.WellFormed declarations := by
  obtain ⟨document, loaded, accepted⟩ := Catalog.load_eq_ok_iff.mp reads.loaded
  exact Header.wellFormed_of_declare (Specification.unambiguous_of_load loaded) accepted
    reads.declared

end Reads

end Generation

end ProfilingSession
