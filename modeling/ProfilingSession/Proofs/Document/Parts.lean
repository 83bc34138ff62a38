import ProfilingSession.Document

/-!
# Parts of documents

What is inside a document at any depth, and which value stands under a key. `Unambiguous` says of
a document that no mapping in it, however deep, has two entries with one key.
-/

namespace ProfilingSession.Document

/-- A property of documents holds of all if a list or a mapping has it whenever its parts do. -/
@[elab_as_elim]
theorem inductionOn {motive : Document → Prop} (document : Document)
    (null : motive .null) (bool : ∀ value, motive (.bool value))
    (int : ∀ value, motive (.int value)) (float : ∀ value, motive (.float value))
    (text : ∀ value, motive (.text value))
    (list : ∀ items, (∀ item ∈ items, motive item) → motive (.list items))
    (mapping : ∀ entries, (∀ entry ∈ entries, motive entry.2) → motive (.mapping entries)) :
    motive document :=
  match document with
  | .null => null
  | .bool value => bool value
  | .int value => int value
  | .float value => float value
  | .text value => text value
  | .list items => list items fun item _ =>
    inductionOn item null bool int float text list mapping
  | .mapping entries => mapping entries fun entry _ =>
    inductionOn entry.2 null bool int float text list mapping
termination_by document
decreasing_by
  · next mem =>
    have smaller := List.sizeOf_lt_of_mem mem
    simp only [Document.list.sizeOf_spec]
    omega
  · next mem =>
    have smaller := List.sizeOf_lt_of_mem mem
    rw [Prod.mk.sizeOf_spec entry.1 entry.2] at smaller
    simp only [Document.mapping.sizeOf_spec]
    omega

/-- A part of a document, at any depth. -/
inductive Inside (part : Document) : Document → Prop where
  | whole : Inside part part
  | item {items : List Document} {item : Document} (mem : item ∈ items)
    (deeper : Inside part item) : Inside part (.list items)
  | value {entries : List (String × Document)} {entry : String × Document}
    (mem : entry ∈ entries) (deeper : Inside part entry.2) : Inside part (.mapping entries)

/-- No mapping of a document has two entries with one key. -/
def Unambiguous (document : Document) : Prop :=
  ∀ entries, Inside (.mapping entries) document → (keys entries).Nodup

variable {key : String} {value document : Document} {entries : List (String × Document)}

theorem lookup_eq_some_iff :
    lookup key entries = some value ↔
      ∃ before after, entries = before ++ (key, value) :: after ∧ key ∉ keys before := by
  simp only [lookup, Option.map_eq_some_iff, List.find?_eq_some_iff_append]
  constructor
  · rintro ⟨⟨key', _⟩, ⟨same, before, after, rfl, none'⟩, rfl⟩
    obtain rfl : key' = key := by simpa using same
    refine ⟨before, after, rfl, fun mem => ?_⟩
    obtain ⟨entry, mem', rfl⟩ := List.mem_map.mp mem
    simpa using none' entry mem'
  · rintro ⟨before, after, rfl, none'⟩
    refine ⟨(key, value), ⟨by simp, before, after, rfl, fun entry mem => ?_⟩, rfl⟩
    have ne : entry.1 ≠ key := by
      rintro rfl
      exact none' (List.mem_map_of_mem mem)
    simpa using ne

theorem lookup_eq_none_iff : lookup key entries = none ↔ key ∉ keys entries := by
  simp [lookup, keys, ← Option.not_isSome_iff_eq_none]

/-- What is found under a key is the value of its first entry. -/
theorem get?_eq_some_iff :
    document.get? key = some value ↔
      ∃ before after, document = .mapping (before ++ (key, value) :: after) ∧
        key ∉ keys before := by
  cases document with
  | mapping entries => simp [get?, lookup_eq_some_iff]
  | _ => simp [get?]

theorem get?_eq_none_iff :
    document.get? key = none ↔ ∀ entries, document = .mapping entries → key ∉ keys entries := by
  cases document with
  | mapping entries => simp [get?, lookup_eq_none_iff]
  | _ => simp [get?]

end ProfilingSession.Document
