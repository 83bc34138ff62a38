import ProfilingSession.Proofs.Declaration.Payload
import ProfilingSession.Proofs.Declaration.Preprocessor

/-!
# What a call of a macro becomes

The line of a declaration is the definition of a macro whose body is a call of the helper, with
the tag of the event and the parameters of the payload. The parameters are in the same namespace
as the tag and the helper, and nothing keeps an event from having a parameter of such a name, so
that a call of the macro may become the call of something else. `expand_eq_call_iff` says that
this is the only thing that can go wrong: a macro does what it should for all arguments if, and
only if, neither the tag nor the helper is the name of a parameter.
-/

namespace ProfilingSession.Declaration

open Preprocessor (Definition IsWord Token scan tokens)

/-- The call that a macro is for: of the helper, with the tag and the arguments of the payload, in
wire order. -/
def call (declaration : Declaration) (arguments : List (List Token)) : List Token :=
  .word declaration.helperName :: .mark '(' :: .word declaration.tag ::
    (((declaration.parameters.zip arguments).filter fun entry =>
        entry.1 ∈ declaration.payload).flatMap (fun entry => .mark ',' :: entry.2) ++ [.mark ')'])

/-- The macro that the line of a declaration defines. -/
def definition (declaration : Declaration) : Definition where
  name := declaration.macroName
  parameters := declaration.parameters.map Parameter.name
  body := .word declaration.helperName :: .mark '(' :: .word declaration.tag ::
    ((declaration.payload.map Parameter.name).flatMap (fun name => [.mark ',', .word name]) ++
      [.mark ')'])

variable {event : Event} {keeps : String → Bool}

theorem isWord_tag (h : event.WellFormed) : IsWord (ofEvent keeps event).tag :=
  Preprocessor.isWord_upper (Preprocessor.isWord_of_isIdentifier h.isIdentifier)

theorem isWord_macroName (h : event.WellFormed) : IsWord (ofEvent keeps event).macroName :=
  (Preprocessor.isWord_of_all (by decide) (by decide)).append (isWord_tag h).2

theorem isWord_helperName (declaration : Declaration) : IsWord declaration.helperName := by
  have start : IsWord "produce_" := Preprocessor.isWord_of_all (by decide) (by decide)
  have tagged : IsWord ("produce_" ++ toString tagWidth) :=
    start.append fun c mem => Preprocessor.isWordChar_of_mem_toString mem
  refine tagged.append fun c mem => ?_
  simp only [String.toList_join, List.mem_flatMap, List.mem_map] at mem
  obtain ⟨_, ⟨parameter, -, rfl⟩, mem⟩ := mem
  rw [String.toList_append, List.mem_append] at mem
  rcases mem with underscore | digit
  · obtain rfl : c = '_' := by simpa using underscore
    decide
  · exact Preprocessor.isWordChar_of_mem_toString digit

theorem isWord_of_mem_payload (h : event.WellFormed) :
    ∀ name ∈ (ofEvent keeps event).payload.map Parameter.name, IsWord name := by
  simp only [ofEvent, List.mem_map, List.mem_filter]
  rintro _ ⟨parameter, ⟨mem, -⟩, rfl⟩
  exact Preprocessor.isWord_of_isIdentifier (h.parameterIsIdentifier parameter mem)

theorem toList_line (declaration : Declaration) :
    declaration.line.toList =
      '#' :: ("define".toList ++ ' ' :: (declaration.macroName.toList ++ '(' ::
        ((", ".intercalate (declaration.parameters.map Parameter.name)).toList ++ ')' :: ' ' ::
          (declaration.helperName.toList ++ '(' :: (declaration.tag.toList ++
            ((declaration.payload.map Parameter.name).flatMap
              (fun name => ',' :: ' ' :: name.toList) ++ [')'])))))) := by
  unfold line
  simp [String.toList_append, String.toList_join, List.flatMap_map]

theorem toList_intercalate_cons (name : String) (rest : List String) :
    (", ".intercalate (name :: rest)).toList =
      name.toList ++ rest.flatMap fun other => ',' :: ' ' :: other.toList := by
  induction rest generalizing name with
  | nil => simp
  | cons other rest ih =>
    rw [String.intercalate_cons_cons, String.toList_append, String.toList_append, ih]
    simp

theorem filter_words (names : List String) :
    (names.flatMap fun name => [Token.mark ',', .blank, .word name]).filter (· ≠ .blank) =
      names.flatMap fun name => [.mark ',', .word name] := by
  induction names with
  | nil => rfl
  | cons name rest ih => simpa using ih

/-- The parameters of a macro are read up to the closing bracket. -/
theorem readParameters_scan {names : List String} (words : ∀ name ∈ names, IsWord name)
    (t : List Char) :
    Definition.readParameters
        ((scan [] ((", ".intercalate names).toList ++ ')' :: t)).filter (· ≠ .blank)) =
      some (names, (scan [] t).filter (· ≠ .blank)) := by
  cases names with
  | nil =>
    rw [String.intercalate_nil, String.toList_empty, List.nil_append,
      Preprocessor.scan_cons _ (by decide)]
    rfl
  | cons name rest =>
    obtain ⟨first, others⟩ := List.forall_mem_cons.mp words
    rw [toList_intercalate_cons, List.append_assoc, Preprocessor.scan_words first others]
    have more := Definition.readMore_append rest ((scan [] t).filter (· ≠ .blank))
    rw [← filter_words] at more
    simpa [Definition.readParameters] using more

/-- The body of a macro is read as it was written, but for the blanks. -/
theorem filter_scan_body (h : event.WellFormed) :
    (scan [] (' ' :: ((ofEvent keeps event).helperName.toList ++ '(' ::
        ((ofEvent keeps event).tag.toList ++
          (((ofEvent keeps event).payload.map Parameter.name).flatMap
            (fun name => ',' :: ' ' :: name.toList) ++ [')']))))).filter (· ≠ .blank) =
      (ofEvent keeps event).definition.body := by
  rw [Preprocessor.scan_cons _ (by decide),
    Preprocessor.scan_word_append (isWord_helperName _) _ (by decide),
    Preprocessor.scan_words (isWord_tag h) (isWord_of_mem_payload h)]
  have words := filter_words ((ofEvent keeps event).payload.map Parameter.name)
  simpa [definition, Preprocessor.single, List.filter_append, scan, Preprocessor.endWord]
    using words

/-- The line of a declaration is read as the definition of its macro. -/
theorem ofLine_line (h : event.WellFormed) :
    Definition.ofLine (ofEvent keeps event).line = some (ofEvent keeps event).definition := by
  have words : ∀ name ∈ (ofEvent keeps event).parameters.map Parameter.name, IsWord name := by
    simp only [ofEvent, List.mem_map]
    rintro _ ⟨parameter, mem, rfl⟩
    exact Preprocessor.isWord_of_isIdentifier (h.parameterIsIdentifier parameter mem)
  have directive : IsWord "define" := Preprocessor.isWord_of_all (by decide) (by decide)
  unfold Definition.ofLine tokens
  rw [toList_line, Preprocessor.scan_cons _ (by decide),
    Preprocessor.scan_word_append directive _ (by decide),
    Preprocessor.scan_word_append (isWord_macroName h) _ (by decide)]
  have read := readParameters_scan words
    (' ' :: ((ofEvent keeps event).helperName.toList ++ '(' ::
      ((ofEvent keeps event).tag.toList ++
        (((ofEvent keeps event).payload.map Parameter.name).flatMap
          (fun name => ',' :: ' ' :: name.toList) ++ [')']))))
  rw [filter_scan_body h] at read
  change (if "define" = "define" then (Definition.readParameters _).map _ else none) = _
  rw [if_pos rfl, read]
  rfl

/-- An entry is found under its name if all names differ. -/
theorem lookup_of_mem {α : Type} {entries : List (String × α)}
    (differ : (entries.map Prod.fst).Nodup) {entry : String × α} (mem : entry ∈ entries) :
    entries.lookup entry.1 = some entry.2 := by
  induction entries with
  | nil => cases mem
  | cons first rest ih =>
    obtain ⟨new, differ'⟩ := List.nodup_cons.mp differ
    rcases List.mem_cons.mp mem with rfl | mem
    · exact List.lookup_cons_self
    · have ne : (entry.1 == first.1) = false := by
        simpa using fun same : entry.1 = first.1 =>
          new (same ▸ List.mem_map_of_mem mem)
      rw [List.lookup_cons, ne]
      exact ih differ' mem

/-- A parameter is replaced by its argument. -/
theorem substitute_parameter (h : event.WellFormed) {arguments : List (List Token)}
    (fits : arguments.length = event.parameters.length) {entry : Parameter × List Token}
    (mem : entry ∈ event.parameters.zip arguments) :
    (ofEvent keeps event).definition.substitute arguments (.word entry.1.name) = entry.2 := by
  have differ : (((event.parameters.map Parameter.name).zip arguments).map Prod.fst).Nodup := by
    rw [List.map_fst_zip (by simp [fits])]
    exact h.parametersDiffer
  have mem' : (entry.1.name, entry.2) ∈ (event.parameters.map Parameter.name).zip arguments := by
    rw [List.zip_map_left]
    exact List.mem_map.mpr ⟨entry, mem, rfl⟩
  have found := lookup_of_mem differ mem'
  simp only [Definition.substitute, definition, ofEvent]
  rw [found, Option.getD_some]

/-- Each parameter that is kept is replaced by its argument. -/
theorem substitute_payload (h : event.WellFormed) {arguments : List (List Token)}
    (fits : arguments.length = event.parameters.length) :
    ((ofEvent keeps event).payload.flatMap fun parameter =>
        .mark ',' :: (ofEvent keeps event).definition.substitute arguments
          (.word parameter.name)) =
      ((event.parameters.zip arguments).filter fun entry =>
        entry.1 ∈ (ofEvent keeps event).payload).flatMap fun entry => .mark ',' :: entry.2 := by
  have kept : (event.parameters.zip arguments).filter (fun entry =>
      entry.1 ∈ (ofEvent keeps event).payload) =
      (event.parameters.zip arguments).filter fun entry => keeps entry.1.name := by
    refine List.filter_congr fun entry mem => ?_
    simp [ofEvent, (List.of_mem_zip mem).1]
  have payload : (ofEvent keeps event).payload =
      ((event.parameters.zip arguments).filter fun entry => keeps entry.1.name).map Prod.fst := by
    have all : (event.parameters.zip arguments).map Prod.fst = event.parameters :=
      List.map_fst_zip (by omega)
    conv_lhs => rw [ofEvent, ← all]
    rw [List.filter_map]
    rfl
  rw [kept, payload, List.flatMap_map]
  refine List.flatMap_congr fun entry mem => ?_
  rw [substitute_parameter h fits (List.mem_filter.mp mem).1]

/-- The expansion of a macro is the call it is for, but that the helper and the tag may have been
replaced. -/
theorem expand_definition (h : event.WellFormed) {arguments : List (List Token)}
    (fits : arguments.length = event.parameters.length) :
    (ofEvent keeps event).definition.expand arguments =
      (ofEvent keeps event).definition.substitute arguments
          (.word (ofEvent keeps event).helperName) ++
        .mark '(' :: ((ofEvent keeps event).definition.substitute arguments
            (.word (ofEvent keeps event).tag) ++
          (((event.parameters.zip arguments).filter fun entry =>
              entry.1 ∈ (ofEvent keeps event).payload).flatMap
                (fun entry => .mark ',' :: entry.2) ++ [.mark ')'])) := by
  have body : (ofEvent keeps event).definition.body =
      .word (ofEvent keeps event).helperName :: .mark '(' :: .word (ofEvent keeps event).tag ::
        (((ofEvent keeps event).payload.map Parameter.name).flatMap
          (fun name => [.mark ',', .word name]) ++ [.mark ')']) := rfl
  rw [Definition.expand, body, ← substitute_payload h fits]
  simp only [List.flatMap_cons, List.flatMap_append, List.flatMap_map, List.flatMap_assoc,
    List.flatMap_nil, List.append_nil, Definition.substitute_mark, List.singleton_append]

/-- A macro does what it should, for all arguments, if neither the tag nor the helper is the name
of a parameter, and only then. -/
theorem forall_expand_eq_call_iff (keeps : String → Bool) (h : event.WellFormed) :
    (∀ arguments : List (List Token), arguments.length = event.parameters.length →
        (ofEvent keeps event).definition.expand arguments =
          (ofEvent keeps event).call arguments) ↔
      (ofEvent keeps event).tag ∉ event.parameters.map Parameter.name ∧
        (ofEvent keeps event).helperName ∉ event.parameters.map Parameter.name := by
  constructor
  · intro faithful
    -- With a sign for every argument, a word that was replaced is not a word any more.
    have fits : ((ofEvent keeps event).definition.parameters.map
        fun _ => [Token.mark '@']).length = event.parameters.length := by
      simp [definition, ofEvent]
    have same := faithful _ fits
    rw [expand_definition h fits, call] at same
    have helper : (ofEvent keeps event).helperName ∉ event.parameters.map Parameter.name := by
      intro mem
      rw [Definition.substitute_of_mem mem] at same
      cases same
    refine ⟨fun mem => ?_, helper⟩
    rw [Definition.substitute_of_not_mem helper, Definition.substitute_of_mem mem] at same
    cases same
  · rintro ⟨tag, helper⟩ arguments fits
    rw [expand_definition h fits, Definition.substitute_of_not_mem helper,
      Definition.substitute_of_not_mem tag]
    rfl

/-- What the macros of a header become, for all events that can be read, whatever is selected of
them: the line of a declaration is the definition of its macro, with its parameters in wire order,
and every call of the macro becomes the call of the helper with the tag and the arguments of the
payload if, and only if, neither the tag nor the helper has the name of a parameter. -/
theorem expand_eq_call_iff {document : Document} (written : document.repeatedKey = none)
    {catalog : Catalog} (read : Catalog.ofDocument document = .ok catalog)
    {selection : Option Selection} {declarations : List Declaration}
    (declared : declare catalog selection = .ok declarations) {declaration : Declaration}
    (mem : declaration ∈ declarations) :
    ∃ definition, Definition.ofLine declaration.line = some definition ∧
      definition.name = declaration.macroName ∧
      definition.parameters = declaration.parameters.map Parameter.name ∧
      ((∀ arguments : List (List Token), arguments.length = definition.parameters.length →
          definition.expand arguments = declaration.call arguments) ↔
        declaration.tag ∉ definition.parameters ∧
          declaration.helperName ∉ definition.parameters) := by
  obtain ⟨event, mem', keeps, rfl⟩ := exists_of_mem_declare declared mem
  have wellFormed := (Catalog.wellFormed_of_ofDocument written read).events event mem'
  refine ⟨_, ofLine_line wellFormed, rfl, rfl, ?_⟩
  simpa [definition, ofEvent] using forall_expand_eq_call_iff keeps wellFormed

def oneEvent (event parameter : String) : Document :=
  .mapping [("events", .mapping [(event, .mapping [(parameter, .int 64)])])]

/-- The macro of an event whose parameter has an ordinary name makes the call it is for. -/
theorem expand_eq_call_of_one_event :
    ∃ catalog declarations, (oneEvent "load" "addr").repeatedKey = none ∧
      Catalog.ofDocument (oneEvent "load" "addr") = .ok catalog ∧
      declare catalog none = .ok declarations ∧
      ∀ declaration ∈ declarations, ∃ definition,
        Definition.ofLine declaration.line = some definition ∧
        definition.expand [[.word "x"]] = declaration.call [[.word "x"]] := by
  have written : (oneEvent "load" "addr").repeatedKey = none := by decide +kernel
  have read : Catalog.ofDocument (oneEvent "load" "addr") =
      .ok ⟨[⟨"load", [⟨"addr", 64⟩]⟩]⟩ := by decide +kernel
  have declared : declare ⟨[⟨"load", [⟨"addr", 64⟩]⟩]⟩ none =
      .ok [⟨"load", [⟨"addr", 64⟩], [⟨"addr", 64⟩]⟩] := by decide +kernel
  refine ⟨_, _, written, read, declared, fun declaration mem => ?_⟩
  obtain ⟨definition, line, -, parameters, faithful⟩ :=
    expand_eq_call_iff written read declared mem
  obtain rfl := List.mem_singleton.mp mem
  refine ⟨definition, line, faithful.mpr ?_ _ ?_⟩
  · rw [parameters]
    decide +kernel
  · rw [parameters]
    rfl

/-- A parameter with the name of the tag takes its place: the macro of this event sends the
argument as the tag. -/
theorem expand_ne_call_of_tag :
    ∃ catalog declaration definition, (oneEvent "load" "LOAD").repeatedKey = none ∧
      Catalog.ofDocument (oneEvent "load" "LOAD") = .ok catalog ∧
      declare catalog none = .ok [declaration] ∧
      Definition.ofLine declaration.line = some definition ∧
      definition.parameters.length = 1 ∧
      definition.expand [[.word "x"]] ≠ declaration.call [[.word "x"]] := by
  refine ⟨⟨[⟨"load", [⟨"LOAD", 64⟩]⟩]⟩, ⟨"load", [⟨"LOAD", 64⟩], [⟨"LOAD", 64⟩]⟩,
    ⟨"PRODUCE_LOAD", ["LOAD"], [.word "produce_8_64", .mark '(', .word "LOAD", .mark ',',
      .word "LOAD", .mark ')']⟩, by decide +kernel, by decide +kernel, by decide +kernel,
      by decide +kernel, rfl, by decide +kernel⟩

end ProfilingSession.Declaration
