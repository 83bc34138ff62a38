import ProfilingSession.Proofs.Declaration.Expansion
import ProfilingSession.Proofs.Text.Lines

/-!
# Signatures

What a line says of its declaration: the tag, the names of the parameters that the macro takes, and
the names and widths of those in the record. The widths are read off the name of the helper and
belong to the arguments of its call, one by one. All of that can be read back from the line of a
well-formed event, and a declaration is written as its signature says.
-/

namespace ProfilingSession.Declaration

open Preprocessor (Definition IsWord Token isWordChar)

/-- What can be read off the line of a declaration. -/
structure Signature where
  tag : String
  parameters : List String
  payload : List (String × Nat)
  deriving DecidableEq, Repr

def signature (declaration : Declaration) : Signature where
  tag := declaration.tag
  parameters := declaration.parameters.map Parameter.name
  payload := declaration.payload.map fun parameter => (parameter.name, parameter.width)

/-- The widths in the name of a helper, without that of the tag. -/
def readWidths (helper : String) : Option (List Nat) :=
  match helper.toList.splitOn '_' with
  | start :: first :: widths =>
    if start = "produce".toList ∧ Text.readNumber first = some tagWidth then
      widths.mapM Text.readNumber
    else none
  | _ => none

namespace Signature

/-- The tag and the payload in the call of a helper. -/
def ofCall : List Token → Option (String × List (String × Nat))
  | .word helper :: .mark '(' :: .word tag :: rest => do
    let (names, _) ← Definition.readMore rest
    let widths ← readWidths helper
    if names.length = widths.length then some (tag, names.zip widths) else none
  | _ => none

def ofLine (line : String) : Option Signature := do
  let definition ← Definition.ofLine line
  let (tag, payload) ← ofCall definition.body
  return ⟨tag, definition.parameters, payload⟩

end Signature

/-- The name of a helper is cut at its underscores into its start and the widths. -/
theorem splitOn_helperName (declaration : Declaration) :
    declaration.helperName.toList.splitOn '_' =
      "produce".toList :: (toString tagWidth).toList ::
        declaration.payload.map fun parameter => (toString parameter.width).toList := by
  have joined : declaration.helperName.toList = ['_'].intercalate
      ("produce".toList :: (toString tagWidth).toList ::
        declaration.payload.map fun parameter => (toString parameter.width).toList) := by
    rw [← Text.append_flatMap_cons]
    simp [helperName, List.flatMap_map]
  rw [joined]
  refine List.splitOn_intercalate '_' (fun piece mem => ?_) (by simp)
  have digits : ∀ n : Nat, '_' ∉ (toString n).toList := by
    intro n underscore
    have digit := Text.isDigit_of_mem_toString underscore
    revert digit
    decide
  simp only [List.mem_cons, List.mem_map] at mem
  rcases mem with rfl | rfl | ⟨parameter, -, rfl⟩
  · decide
  · exact digits tagWidth
  · exact digits parameter.width

theorem readWidths_helperName (declaration : Declaration) :
    readWidths declaration.helperName = some (declaration.payload.map Parameter.width) := by
  have widths := List.mapM_pure (m := Option) (l := declaration.payload) (f := Parameter.width)
  rw [readWidths, splitOn_helperName]
  simpa [List.mapM_map, Function.comp_def] using widths

variable {event : Event} {keeps : String → Bool}

theorem ofLine_signature (h : event.WellFormed) :
    Signature.ofLine (ofEvent keeps event).line = some (ofEvent keeps event).signature := by
  have call : Signature.ofCall (ofEvent keeps event).definition.body =
      some ((ofEvent keeps event).tag, (ofEvent keeps event).signature.payload) := by
    have names := Definition.readMore_append ((ofEvent keeps event).payload.map Parameter.name) []
    simp [definition, Signature.ofCall, names, readWidths_helperName, signature, List.zip_map']
  simp [Signature.ofLine, ofLine_line h, call]
  rfl

theorem not_mem_of_isWord {text : String} (h : IsWord text) {c : Char}
    (other : isWordChar c = false) : c ∉ text.toList := by
  intro mem
  rw [h.2 c mem] at other
  cases other

theorem not_mem_intercalate {names : List String} {c : Char} (comma : c ≠ ',') (blank : c ≠ ' ')
    (h : ∀ name ∈ names, c ∉ name.toList) : c ∉ (", ".intercalate names).toList := by
  cases names with
  | nil => simp
  | cons name rest =>
    obtain ⟨first, others⟩ := List.forall_mem_cons.mp h
    rw [toList_intercalate_cons, List.mem_append, not_or]
    refine ⟨first, ?_⟩
    simpa [comma, blank] using others

theorem newline_not_mem_line (h : event.WellFormed) :
    '\n' ∉ (ofEvent keeps event).line.toList := by
  have parameters : '\n' ∉
      (", ".intercalate ((ofEvent keeps event).parameters.map Parameter.name)).toList := by
    refine not_mem_intercalate (by decide) (by decide) fun name mem => ?_
    obtain ⟨parameter, inEvent, rfl⟩ := List.mem_map.mp mem
    exact not_mem_of_isWord (Preprocessor.isWord_of_isIdentifier
      (h.parameterIsIdentifier parameter inEvent)) (by decide)
  have payload : ∀ name ∈ (ofEvent keeps event).payload.map Parameter.name, '\n' ∉ name.toList :=
    fun name mem => not_mem_of_isWord (isWord_of_mem_payload h name mem) (by decide)
  have macros : '\n' ∉ (ofEvent keeps event).macroName.toList :=
    not_mem_of_isWord (isWord_macroName h) (by decide)
  have helper : '\n' ∉ (ofEvent keeps event).helperName.toList :=
    not_mem_of_isWord (isWord_helperName _) (by decide)
  have tag : '\n' ∉ (ofEvent keeps event).tag.toList :=
    not_mem_of_isWord (isWord_tag h) (by decide)
  have directive : '\n' ∉ "define".toList := by decide
  rw [toList_line]
  simp only [List.mem_cons, List.mem_append, List.mem_flatMap, not_or, not_exists, not_and]
  refine ⟨by decide, directive, by decide, macros, by decide, parameters, by decide, by decide,
    helper, by decide, tag, fun name mem => ⟨by decide, by decide, payload name mem⟩, by decide,
    List.not_mem_nil⟩

/-- Declarations with one signature are written alike. -/
theorem line_congr {declaration other : Declaration}
    (same : declaration.signature = other.signature) : declaration.line = other.line := by
  obtain ⟨tag, parameters, payload⟩ := Signature.mk.inj same
  have names : declaration.payload.map Parameter.name = other.payload.map Parameter.name := by
    simpa [Function.comp_def] using congrArg (List.map Prod.fst) payload
  have widths := congrArg (List.map fun entry => "_" ++ toString entry.2) payload
  rw [List.map_map, List.map_map] at widths
  have helper : declaration.helperName = other.helperName :=
    congrArg (fun parts => "produce_" ++ toString tagWidth ++ String.join parts) widths
  have macros : declaration.macroName = other.macroName := congrArg ("PRODUCE_" ++ ·) tag
  -- Written out as characters, a line is made of nothing but these parts.
  rw [← String.toList_inj, toList_line, toList_line, macros, parameters, helper, tag, names]

theorem map_line_congr {declarations others : List Declaration}
    (same : declarations.map signature = others.map signature) :
    declarations.map line = others.map line := by
  induction declarations generalizing others with
  | nil =>
    obtain rfl := List.map_eq_nil_iff.mp same.symm
    rfl
  | cons declaration rest ih =>
    cases others with
    | nil => cases same
    | cons other more =>
      obtain ⟨first, remaining⟩ := List.cons.inj same
      rw [List.map_cons, List.map_cons, line_congr first, ih remaining]

end ProfilingSession.Declaration
