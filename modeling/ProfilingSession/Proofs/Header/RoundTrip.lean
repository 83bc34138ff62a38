import ProfilingSession.Header
import ProfilingSession.Proofs.Declaration.Foreign
import ProfilingSession.Proofs.Declaration.Signature

/-!
# Headers can be read back

A header is its prelude, ended if need be, and one line for each declaration, which can be told apart
since no line holds a line feed. `Header.read` takes a header apart in that way, and `read_render`
says that it finds the signatures of all declarations. So two headers with one prelude are the same
text just when their declarations have the same signatures.
-/

namespace ProfilingSession.Header

open Declaration (Signature memoryCatalog memoryDocument ofDocument_memoryDocument
  reorderedDocument unambiguous_memoryDocument)

/-- What stands before the declarations: the prelude, with a line feed if it is neither empty nor
ended by one. -/
inductive Opens (text : String) : String → Prop where
  | whole (closed : text = "" ∨ ∃ before, text = before ++ "\n") : Opens text text
  | ended (nonempty : text ≠ "") (unended : ∀ before, text ≠ before ++ "\n") :
    Opens text (text ++ "\n")

theorem opens_endLine (text : String) : Opens text (endLine text) := by
  have last : text.toList.getLast? = some '\n' ↔ ∃ before, text = before ++ "\n" := by
    rw [List.getLast?_eq_some_iff]
    constructor
    · rintro ⟨before, shape⟩
      exact ⟨String.ofList before, by rw [← String.toList_inj, shape]; simp⟩
    · rintro ⟨before, rfl⟩
      exact ⟨before.toList, by simp⟩
  unfold endLine
  split
  · next closed =>
    refine .whole ?_
    simpa [last] using closed
  · next unended =>
    simp only [Bool.or_eq_true, String.isEmpty_iff, decide_eq_true_eq, last, not_or,
      not_exists] at unended
    exact .ended unended.1 unended.2

/-- The signatures of the declarations in a header with a prelude. -/
def read (prelude : Option String) (text : String) : Option (List Signature) := do
  let rest ← (endLine (prelude.getD "")).toList.isPrefixOf? text.toList
  let lines ← Text.endedLines (String.ofList rest)
  lines.mapM Signature.ofLine

def WellFormed (declarations : List Declaration) : Prop :=
  ∀ declaration ∈ declarations, ∃ event keeps,
    Event.WellFormed event ∧ declaration = .ofEvent keeps event

variable {declarations others : List Declaration}

theorem WellFormed.newline_not_mem (h : WellFormed declarations) :
    ∀ declaration ∈ declarations, '\n' ∉ declaration.line.toList := by
  intro declaration mem
  obtain ⟨event, keeps, wellFormed, rfl⟩ := h declaration mem
  exact Declaration.newline_not_mem_line wellFormed

theorem mapM_ofLine (h : WellFormed declarations) :
    (declarations.map Declaration.line).mapM Signature.ofLine =
      some (declarations.map Declaration.signature) := by
  induction declarations with
  | nil => rfl
  | cons declaration rest ih =>
    obtain ⟨⟨event, keeps, wellFormed, rfl⟩, others⟩ := List.forall_mem_cons.mp h
    rw [List.map_cons, List.mapM_cons, Declaration.ofLine_signature wellFormed, ih others]
    rfl

theorem render_eq (prelude : Option String) (declarations : List Declaration) :
    render prelude declarations = endLine (prelude.getD "") ++
      String.join ((declarations.map Declaration.line).map fun line => line ++ "\n") := by
  rw [render, List.map_map]
  rfl

/-- What is read from a header are the signatures it was made of. -/
theorem read_render_of_wellFormed (h : WellFormed declarations) (prelude : Option String) :
    read prelude (render prelude declarations) =
      some (declarations.map Declaration.signature) := by
  have rest : (endLine (prelude.getD "")).toList.isPrefixOf? (render prelude declarations).toList =
      some (String.join
        ((declarations.map Declaration.line).map fun line => line ++ "\n")).toList := by
    rw [List.isPrefixOf?_eq_some_iff_append_eq, render_eq, String.toList_append]
  have lines : ∀ line ∈ declarations.map Declaration.line, '\n' ∉ line.toList := by
    simpa using h.newline_not_mem
  simp only [read, rest, Option.bind_eq_bind, Option.bind_some, String.ofList_toList,
    Text.endedLines_join lines, mapM_ofLine h]

/-- Headers with one prelude are the same if their declarations have the same signatures, and only
then. -/
theorem render_eq_render_iff (h : WellFormed declarations) (h' : WellFormed others)
    (prelude : Option String) :
    render prelude declarations = render prelude others ↔
      declarations.map Declaration.signature = others.map Declaration.signature := by
  constructor
  · intro same
    have signatures := read_render_of_wellFormed h prelude
    rw [same, read_render_of_wellFormed h' prelude] at signatures
    exact (Option.some.inj signatures).symm
  · intro same
    rw [render_eq, render_eq, Declaration.map_line_congr same]

theorem wellFormed_of_declare {document : Document} (differ : document.Unambiguous)
    {catalog : Catalog} (accepted : Catalog.ofDocument document = .ok catalog)
    {selection : Option Selection} (declared : declare catalog selection = .ok declarations) :
    WellFormed declarations := by
  intro declaration mem
  obtain ⟨event, inCatalog, keeps, same⟩ := Declaration.exists_of_mem_declare declared mem
  have wellFormed := Catalog.wellFormed_of_ofDocument
    (Document.repeatedKey_eq_none_iff.mpr differ) accepted
  exact ⟨event, keeps, wellFormed.events event inCatalog, same⟩

/-- A catalog can be declared as a whole, and for every selection that was read against it. -/
theorem exists_declare {catalog : Catalog} {selection : Option Selection}
    (chosen : ∀ selected ∈ selection, ∃ written,
      Selection.ofDocument catalog written = .ok selected) :
    ∃ declarations, declare catalog selection = .ok declarations := by
  cases selection with
  | none => exact ⟨_, rfl⟩
  | some selected =>
    obtain ⟨written, read⟩ := chosen selected rfl
    exact Declaration.exists_declare_of_covers (Declaration.covers_of_ofDocument read)

/-- The header of a catalog, or of a selection that was read against it, is the prelude and one
line for each declaration. The signatures of all declarations can be read back from it, and another
header with this prelude, from any catalog and selection, is the same text if, and only if, its
declarations have the same signatures. -/
theorem read_render {document : Document} (differ : document.Unambiguous) {catalog : Catalog}
    (accepted : Catalog.ofDocument document = .ok catalog) {selection : Option Selection}
    (chosen : ∀ selected ∈ selection, ∃ written,
      Selection.ofDocument catalog written = .ok selected) (prelude : Option String) :
    ∃ declarations, declare catalog selection = .ok declarations ∧
      (∃ opening, Opens (prelude.getD "") opening ∧ render prelude declarations =
        opening ++ String.join (declarations.map fun declaration => declaration.line ++ "\n")) ∧
      (∀ declaration ∈ declarations, '\n' ∉ declaration.line.toList) ∧
      read prelude (render prelude declarations) =
        some (declarations.map Declaration.signature) ∧
      ∀ document' catalog' selection' others, document'.Unambiguous →
        Catalog.ofDocument document' = .ok catalog' → declare catalog' selection' = .ok others →
          (render prelude declarations = render prelude others ↔
            declarations.map Declaration.signature = others.map Declaration.signature) := by
  obtain ⟨declarations, declared⟩ := exists_declare chosen
  have wellFormed := wellFormed_of_declare differ accepted declared
  refine ⟨declarations, declared, ⟨_, opens_endLine _, rfl⟩, wellFormed.newline_not_mem,
    read_render_of_wellFormed wellFormed prelude, ?_⟩
  intro document' catalog' selection' others differ' accepted' declared'
  exact render_eq_render_iff wellFormed (wellFormed_of_declare differ' accepted' declared') prelude

/-- The header of a selection out of wire order, read back. -/
theorem read_render_of_reordered :
    ∃ catalog selection declarations, memoryDocument.Unambiguous ∧
      Catalog.ofDocument memoryDocument = .ok catalog ∧
      Selection.ofDocument catalog reorderedDocument = .ok selection ∧
      declare catalog (some selection) = .ok declarations ∧
      read (some "#pragma once") (render (some "#pragma once") declarations) =
        some [⟨"LOOP_EXIT", [], []⟩,
          ⟨"LOAD", ["instr", "addr", "size"], [("instr", 32), ("size", 32)]⟩] := by
  have chosen : Selection.ofDocument memoryCatalog reorderedDocument =
      .ok ⟨[⟨"loop_exit", []⟩, ⟨"load", ["size", "instr"]⟩]⟩ := by
    decide +kernel
  have reads : ∀ selected ∈ some (Selection.mk [⟨"loop_exit", []⟩, ⟨"load", ["size", "instr"]⟩]),
      ∃ written, Selection.ofDocument memoryCatalog written = .ok selected := by
    rintro _ ⟨⟩
    exact ⟨_, chosen⟩
  have made : declare memoryCatalog
      (some ⟨[⟨"loop_exit", []⟩, ⟨"load", ["size", "instr"]⟩]⟩) = .ok [⟨"loop_exit", [], []⟩,
        ⟨"load", [⟨"instr", 32⟩, ⟨"addr", 64⟩, ⟨"size", 32⟩],
          [⟨"instr", 32⟩, ⟨"size", 32⟩]⟩] := by
    decide +kernel
  obtain ⟨declarations, declared, -, -, signatures, -⟩ := read_render
    unambiguous_memoryDocument ofDocument_memoryDocument reads (some "#pragma once")
  refine ⟨_, _, declarations, unambiguous_memoryDocument, ofDocument_memoryDocument, chosen,
    declared, signatures.trans ?_⟩
  obtain rfl := Except.ok.inj (declared.symm.trans made)
  decide +kernel

end ProfilingSession.Header
