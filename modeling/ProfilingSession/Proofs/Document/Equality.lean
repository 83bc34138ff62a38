import ProfilingSession.Proofs.Document.Parts

/-!
# Equality of documents

Documents are compared part by part, so that it can be decided whether a text is read as a given
document.
-/

namespace ProfilingSession.Document

mutual

def same : Document → Document → Bool
  | .null, .null => true
  | .bool value, .bool other => value == other
  | .int value, .int other => value == other
  | .float value, .float other => value == other
  | .text value, .text other => value == other
  | .list items, .list others => sameItems items others
  | .mapping entries, .mapping others => sameEntries entries others
  | _, _ => false

def sameItems : List Document → List Document → Bool
  | [], [] => true
  | item :: rest, other :: others => same item other && sameItems rest others
  | _, _ => false

def sameEntries : List (String × Document) → List (String × Document) → Bool
  | [], [] => true
  | (key, value) :: rest, (otherKey, other) :: others =>
    key == otherKey && same value other && sameEntries rest others
  | _, _ => false

end

theorem sameItems_iff {items : List Document}
    (each : ∀ item ∈ items, ∀ other, same item other = true ↔ item = other)
    (others : List Document) : sameItems items others = true ↔ items = others := by
  induction items generalizing others with
  | nil => cases others <;> simp [sameItems]
  | cons item rest ih =>
    obtain ⟨first, each⟩ := List.forall_mem_cons.mp each
    cases others with
    | nil => simp [sameItems]
    | cons other others => simp [sameItems, first, ih each]

theorem sameEntries_iff {entries : List (String × Document)}
    (each : ∀ entry ∈ entries, ∀ other, same entry.2 other = true ↔ entry.2 = other)
    (others : List (String × Document)) : sameEntries entries others = true ↔ entries = others := by
  induction entries generalizing others with
  | nil => cases others <;> simp [sameEntries]
  | cons entry rest ih =>
    obtain ⟨first, each⟩ := List.forall_mem_cons.mp each
    cases others with
    | nil => simp [sameEntries]
    | cons other others => simp [sameEntries, first, ih each, Prod.ext_iff]

theorem same_iff (document other : Document) : same document other = true ↔ document = other := by
  induction document using inductionOn generalizing other with
  | list items ih => cases other <;> simp [same, sameItems_iff ih]
  | mapping entries ih => cases other <;> simp [same, sameEntries_iff ih]
  | _ => cases other <;> simp [same]

instance : DecidableEq Document := fun document other =>
  decidable_of_iff (same document other = true) (same_iff document other)

end ProfilingSession.Document
