import ProfilingSession.Proofs.Document.JsonText
import ProfilingSession.Proofs.Specification.Kept

/-!
# Catalogs written in JSON

A catalog is written as an object of its events, whose values are null or objects of widths.
`IsJsonText` says which texts these are: with any white space between the tokens, and with null or
an empty object for an event without parameters. Every well-formed catalog can be written so, and
is read back from each of these texts by `parse_of_isJsonText`.
-/

namespace ProfilingSession.Catalog

open Document (keys)
open Document.Json (IsBlank IsObjectText IsPlain Reads)
open Specification (HasEvents)

/-- How a width is written: in decimal. -/
def IsWidthText (document : Document) (s : List Char) : Prop :=
  ∃ width : Nat, document = .int width ∧ Text.IsDecimal s width

/-- How the body of an event is written: null, or an object of the widths of its parameters. -/
inductive IsBodyText : Document → List Char → Prop where
  | null : IsBodyText .null ['n', 'u', 'l', 'l']
  | mapping {parameters : List (String × Document)} {s : List Char}
    (written : IsObjectText IsWidthText parameters s) : IsBodyText (.mapping parameters) s

/-- How events are written: an object of their bodies. -/
def IsEventsText (document : Document) (s : List Char) : Prop :=
  ∃ events, document = .mapping events ∧ IsObjectText IsBodyText events s

/-- How a catalog is written: an object with its events, and white space around it. -/
def IsJsonText (catalog : Catalog) (text : String) : Prop :=
  ∃ events before s after, List.Forall₂ IsWritten events catalog.events ∧
    IsObjectText IsEventsText [("events", .mapping events)] s ∧ IsBlank before ∧ IsBlank after ∧
    text.toList = before ++ s ++ after

variable {catalog : Catalog} {event : Event} {entry : String × Document} {s : List Char}
variable {document body : Document} {events parameters : List (String × Document)} {depth : Nat}

/-! Events of a well-formed catalog -/

theorem IsBody.unique {others : List (String × Document)} (isBody : IsBody body parameters)
    (isBody' : IsBody body others) : parameters = others := by
  cases isBody <;> cases isBody' <;> rfl

theorem IsWritten.unique {other : Event} (written : IsWritten entry event)
    (written' : IsWritten entry other) : event = other := by
  obtain ⟨name, isBody⟩ := written
  obtain ⟨name', isBody'⟩ := written'
  have injective : Function.Injective
      fun parameter : Parameter => (parameter.name, Document.int parameter.width) := by
    rintro ⟨name, width⟩ ⟨name', width'⟩ same
    simpa using same
  have same := List.map_injective_iff.mpr injective (isBody.unique isBody')
  cases event
  cases other
  simp_all

theorem isEvent_of_isWritten (wellFormed : event.WellFormed) (written : IsWritten entry event) :
    IsEvent entry := by
  obtain ⟨name, isBody⟩ := written
  refine ⟨name ▸ Text.isIdentifier_iff.mp wellFormed.isIdentifier, _, isBody, ?_⟩
  rw [List.forall_mem_map]
  intro parameter mem
  exact ⟨Text.isIdentifier_iff.mp (wellFormed.parameterIsIdentifier parameter mem), _, rfl,
    isWidth_iff.mp (wellFormed.isWidth parameter mem)⟩

theorem keys_eq_of_isWritten {all : List Event} (written : List.Forall₂ IsWritten events all) :
    keys events = all.map Event.name := by
  rw [keys, ← List.forall₂_eq_eq_eq, List.forall₂_map_left_iff, List.forall₂_map_right_iff]
  exact written.imp fun _ _ h => h.1

theorem contract_of_isWritten (wellFormed : catalog.WellFormed)
    (written : List.Forall₂ IsWritten events catalog.events) : Contract events where
  isEvent entry mem := by
    obtain ⟨event, mem', isWritten⟩ := exists_of_mem_forall₂ written.flip mem
    exact isEvent_of_isWritten (wellFormed.events event mem') isWritten
  namesDiffer := by
    have tags := wellFormed.tagsDiffer
    rw [keys_eq_of_isWritten written, List.pairwise_map]
    rw [List.Nodup, List.pairwise_map] at tags
    exact tags.imp fun differ same => differ (Text.lower_eq_lower_iff.mp same)

/-- The events of a well-formed catalog are read as they are written. -/
theorem readEvents_of_isWritten (wellFormed : catalog.WellFormed)
    (written : List.Forall₂ IsWritten events catalog.events) :
    readEvents [] events = .ok catalog.events := by
  have contract := contract_of_isWritten wellFormed written
  obtain ⟨others, read⟩ := exists_readEvents_iff.mpr (fitAfter_nil_iff.mpr contract)
  have unique : Relator.RightUnique IsWritten := fun _ _ _ => IsWritten.unique
  rw [read, unique.forall₂ (forall₂_isWritten_of_readEvents read) written]

theorem repeatedKey_of_isWritten (wellFormed : event.WellFormed) (written : IsWritten entry event) :
    entry.2.repeatedKey = none := by
  obtain ⟨key, body⟩ := entry
  obtain ⟨-, isBody⟩ := written
  have differ := wellFormed.parametersDiffer
  generalize shape : event.parameters.map (fun parameter =>
    (parameter.name, Document.int parameter.width)) = parameters at isBody
  cases isBody with
  | null => rfl
  | mapping =>
    subst shape
    rw [Document.repeatedKey, Document.repeatedInEntries_eq_none_iff]
    refine ⟨by simpa [keys, Function.comp_def] using differ, by simp, ?_⟩
    rw [List.forall_mem_map]
    intro parameter mem
    rfl

theorem unambiguous_of_isWritten (wellFormed : catalog.WellFormed)
    (written : List.Forall₂ IsWritten events catalog.events) :
    Document.Unambiguous (.mapping [("events", .mapping events)]) := by
  have names : (keys events).Nodup := by
    have differ := (contract_of_isWritten wellFormed written).namesDiffer
    exact differ.imp fun other same => other (congrArg Text.lower same)
  have inner : Document.repeatedKey (.mapping events) = none := by
    rw [Document.repeatedKey, Document.repeatedInEntries_eq_none_iff]
    refine ⟨names, by simp, fun entry mem => ?_⟩
    obtain ⟨event, mem', isWritten⟩ := exists_of_mem_forall₂ written.flip mem
    exact repeatedKey_of_isWritten (wellFormed.events event mem') isWritten
  rw [← Document.repeatedKey_eq_none_iff, Document.repeatedKey,
    Document.repeatedInEntries_eq_none_iff]
  exact ⟨List.nodup_singleton _, by simp, by simpa using inner⟩

/-! Texts of catalogs -/

theorem reads_of_isWidthText (isParameter : IsParameter entry) (written : IsWidthText entry.2 s)
    (depth : Nat) : Reads depth entry.2 s := by
  obtain ⟨width, whole, decimal⟩ := written
  obtain ⟨-, width', whole', -, small, -⟩ := isParameter
  have fits : width ≤ Document.Json.greatestWord := by
    rw [whole] at whole'
    cases whole'
    have great : (2 : Int) ^ 32 - 8 ≤ Document.Json.greatestWord := by decide
    omega
  rw [whole]
  exact Document.Json.reads_int decimal fits depth

theorem reads_of_isBodyText (isEvent : IsEvent entry) (written : IsBodyText entry.2 s)
    (positive : 0 < depth) : Reads (depth + 1) entry.2 s := by
  obtain ⟨key, body⟩ := entry
  obtain ⟨-, parameters, isBody, right⟩ := isEvent
  cases written with
  | null => exact Document.Json.reads_null (depth + 1)
  | mapping written =>
    cases isBody
    exact Document.Json.reads_object positive
      (fun parameter mem s text => reads_of_isWidthText (right parameter mem) text depth) written

theorem read_of_isObjectText (contract : Contract events)
    {text : String} {before after : List Char}
    (written : IsObjectText IsEventsText [("events", .mapping events)] s)
    (beforeBlank : IsBlank before) (afterBlank : IsBlank after)
    (whole : text.toList = before ++ s ++ after) :
    Document.Json.read text = .ok (.mapping [("events", .mapping events)]) := by
  have bodies : ∀ s, IsObjectText IsBodyText events s → Reads 127 (.mapping events) s :=
    fun s written => Document.Json.reads_object (by decide)
      (fun entry mem s text => reads_of_isBodyText (contract.isEvent entry mem) text (by decide))
      written
  have object : Reads 128 (.mapping [("events", .mapping events)]) s := by
    refine Document.Json.reads_object (by decide) ?_ written
    rw [List.forall_mem_singleton]
    rintro s ⟨_, ⟨⟩, written⟩
    exact bodies s written
  exact Document.Json.read_of_reads object beforeBlank afterBlank whole

theorem isPlain_of_le {c : Char} (above : '0' ≤ c) (other : c ≠ '\\') : IsPlain c := by
  refine ⟨?_, other, Char.le_trans (by decide) above⟩
  rintro rfl
  exact absurd above (by decide)

theorem isPlain_of_isIdentifier {name : String} (identifier : Text.IsIdentifier name) :
    ∀ c ∈ name.toList, IsPlain c := by
  have letter : ∀ c, Text.IsLetter c → IsPlain c := by
    rintro c (⟨above, below⟩ | ⟨above, -⟩)
    · refine isPlain_of_le (Char.le_trans (by decide) above) ?_
      rintro rfl
      exact absurd below (by decide)
    · refine isPlain_of_le (Char.le_trans (by decide) above) ?_
      rintro rfl
      exact absurd above (by decide)
  have digit : ∀ c, Text.IsDigit c → IsPlain c := by
    rintro c ⟨above, below⟩
    refine isPlain_of_le above ?_
    rintro rfl
    exact absurd below (by decide)
  have underscore : IsPlain '_' := isPlain_of_le (by decide) (by decide)
  obtain ⟨first, rest, whole, start, others⟩ := identifier
  rw [whole, List.forall_mem_cons]
  constructor
  · rcases start with isLetter | rfl
    · exact letter first isLetter
    · exact underscore
  · intro c mem
    rcases others c mem with isLetter | isDigit | rfl
    · exact letter c isLetter
    · exact digit c isDigit
    · exact underscore

/-- An event as an entry, with an object of its parameters. -/
def eventEntry (event : Event) : String × Document :=
  (event.name, .mapping (event.parameters.map fun parameter =>
    (parameter.name, .int parameter.width)))

theorem exists_isBodyText (wellFormed : event.WellFormed) :
    ∃ s, IsBodyText (eventEntry event).2 s := by
  have written : ∃ s, IsObjectText IsWidthText (event.parameters.map fun parameter =>
      (parameter.name, .int parameter.width)) s := by
    refine Document.Json.exists_isObjectText ?_
    rw [List.forall_mem_map]
    intro parameter mem
    have named := Text.isIdentifier_iff.mp (wellFormed.parameterIsIdentifier parameter mem)
    exact ⟨isPlain_of_isIdentifier named, _, parameter.width, rfl, Text.isDecimal_toString _⟩
  obtain ⟨s, written⟩ := written
  exact ⟨s, .mapping written⟩

theorem exists_isJsonText (wellFormed : catalog.WellFormed) : ∃ text, IsJsonText catalog text := by
  have written : List.Forall₂ IsWritten (catalog.events.map eventEntry) catalog.events := by
    rw [List.forall₂_map_left_iff, List.forall₂_same]
    exact fun event _ => ⟨rfl, .mapping _⟩
  have bodies : ∃ s, IsObjectText IsBodyText (catalog.events.map eventEntry) s := by
    refine Document.Json.exists_isObjectText ?_
    rw [List.forall_mem_map]
    intro event mem
    have named := Text.isIdentifier_iff.mp (wellFormed.events event mem).isIdentifier
    exact ⟨isPlain_of_isIdentifier named, exists_isBodyText (wellFormed.events event mem)⟩
  obtain ⟨t, bodies⟩ := bodies
  have key : Text.IsIdentifier "events" := Text.isIdentifier_iff.mp (by decide)
  have object : ∃ s, IsObjectText IsEventsText
      [("events", .mapping (catalog.events.map eventEntry))] s := by
    refine Document.Json.exists_isObjectText ?_
    rw [List.forall_mem_singleton]
    exact ⟨isPlain_of_isIdentifier key, t, _, rfl, bodies⟩
  obtain ⟨s, object⟩ := object
  exact ⟨String.ofList s, _, [], s, [], written, object, List.forall_mem_nil _,
    List.forall_mem_nil _, by simp⟩

/-- A well-formed catalog can be written in JSON, and from every text that it is written as, with
any white space between the tokens and null or an empty object for no parameters, exactly this
catalog is read. -/
theorem parse_of_isJsonText (wellFormed : catalog.WellFormed) :
    (∃ text, IsJsonText catalog text) ∧
      ∀ text, IsJsonText catalog text → parse .json text = .ok catalog := by
  refine ⟨exists_isJsonText wellFormed, ?_⟩
  rintro text ⟨events, before, s, after, written, object, beforeBlank, afterBlank, whole⟩
  have contract := contract_of_isWritten wellFormed written
  have read := read_of_isObjectText contract object beforeBlank afterBlank whole
  have kept := Specification.parse_eq_ok (Document.Format.written_json_eq_ok_iff.mpr read)
    (unambiguous_of_isWritten wellFormed written)
  have has : HasEvents (.mapping [("events", .mapping events)]) events :=
    ⟨[], [], rfl, List.not_mem_nil⟩
  rw [parse_eq_readEvents kept has.finite, contract.finiteEntries_eq,
    readEvents_of_isWritten wellFormed written]
  rfl

def spacedCatalog : Catalog :=
  ⟨[⟨"load", [⟨"addr", 64⟩]⟩, ⟨"ping", []⟩]⟩

theorem wellFormed_spacedCatalog : spacedCatalog.WellFormed where
  events := by
    rintro event mem
    rcases List.mem_pair.mp mem with rfl | rfl <;>
      exact ⟨by decide, by decide, by decide, by decide⟩
  tagsDiffer := by decide

def spacedText : String :=
  "\x7b \"events\":\x7b\"load\":\n\x7b\"addr\" : 64\x7d,\"ping\":null\x7d\t\x7d\n"

theorem parse_of_spacedText :
    spacedCatalog.WellFormed ∧ IsJsonText spacedCatalog spacedText ∧
      parse .json spacedText = .ok spacedCatalog := by
  have plain : ∀ name : String, Text.isIdentifier name = true → ∀ c ∈ name.toList, IsPlain c :=
    fun _ identifier => isPlain_of_isIdentifier (Text.isIdentifier_iff.mp identifier)
  have addr : Document.Json.IsEntryText IsWidthText ("addr", .int 64)
      ([] ++ '"' :: "addr".toList ++ '"' :: [' '] ++ ':' :: [' '] ++ ['6', '4'] ++ []) :=
    .entry (plain _ (by decide)) ⟨64, rfl, by decide, by decide⟩ (by decide) (by decide) (by decide)
      (by decide)
  have load : Document.Json.IsEntryText IsBodyText ("load", .mapping [("addr", .int 64)])
      ([] ++ '"' :: "load".toList ++ '"' :: [] ++ ':' :: ['\n'] ++ _ ++ []) :=
    .entry (plain _ (by decide)) (.mapping (.entries (.last addr))) (by decide) (by decide) (by decide)
      (by decide)
  have ping : Document.Json.IsEntryText IsBodyText ("ping", .null)
      ([] ++ '"' :: "ping".toList ++ '"' :: [] ++ ':' :: [] ++ ['n', 'u', 'l', 'l'] ++ []) :=
    .entry (plain _ (by decide)) .null (by decide) (by decide) (by decide) (by decide)
  have events : Document.Json.IsEntryText IsEventsText ("events", .mapping _)
      ([' '] ++ '"' :: "events".toList ++ '"' :: [] ++ ':' :: [] ++ _ ++ ['\t']) :=
    .entry (plain _ (by decide)) ⟨_, rfl, .entries (.more load (.last ping))⟩ (by decide) (by decide)
      (by decide) (by decide)
  have written : List.Forall₂ IsWritten
      [("load", .mapping [("addr", .int 64)]), ("ping", .null)] spacedCatalog.events :=
    .cons ⟨rfl, .mapping _⟩ (.cons ⟨rfl, .null⟩ .nil)
  have isText : IsJsonText spacedCatalog spacedText :=
    ⟨_, [], _, ['\n'], written, .entries (.last events), by decide, by decide, by decide +kernel⟩
  obtain ⟨-, reads⟩ := parse_of_isJsonText wellFormed_spacedCatalog
  exact ⟨wellFormed_spacedCatalog, isText, reads spacedText isText⟩

end ProfilingSession.Catalog
