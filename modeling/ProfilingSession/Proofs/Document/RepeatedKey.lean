import ProfilingSession.Proofs.Document.Parts
import ProfilingSession.Proofs.Document.Repeats
import ProfilingSession.Proofs.Fallible

/-!
# The first repeated key of a document

`repeatedKey` is the first key that a walk through a whole document in reading order meets twice in
one mapping. `rebuild_eq` says that a document made anew is the one that was read, unless there is
such a key; and there is none in unambiguous documents only.

`visits` lists the keys that the walk meets, each with the place of its mapping, so that equal keys
of different mappings are told apart. In this list `repeatedKey` is the first repeat.
-/

namespace ProfilingSession.Document

mutual

/-- The first key that a walk in reading order meets a second time in its own mapping; a key is
compared before its value is entered. -/
def repeatedKey : Document → Option String
  | .list items => repeatedInItems items
  | .mapping entries => repeatedInEntries [] entries
  | _ => none

/-- The walk through the items of a list. -/
def repeatedInItems : List Document → Option String
  | [] => none
  | item :: rest =>
    match repeatedKey item with
    | some key => some key
    | none => repeatedInItems rest

/-- The walk through the entries of a mapping whose earlier keys are `seen`. -/
def repeatedInEntries (seen : List String) : List (String × Document) → Option String
  | [] => none
  | (key, value) :: rest =>
    if key ∈ seen then some key
    else
      match repeatedKey value with
      | some inner => some inner
      | none => repeatedInEntries (key :: seen) rest

end

variable {key : String} {value document : Document} {items : List Document}
variable {seen : List String} {entries rest made : List (String × Document)}

theorem repeatedInItems_eq_none_iff :
    repeatedInItems items = none ↔ ∀ item ∈ items, item.repeatedKey = none := by
  induction items with
  | nil => simp [repeatedInItems]
  | cons item rest ih =>
    rw [repeatedInItems, List.forall_mem_cons]
    cases item.repeatedKey with
    | none => simpa using ih
    | some key => simp

theorem repeatedInEntries_cons_eq_none_iff :
    repeatedInEntries seen ((key, value) :: rest) = none ↔
      key ∉ seen ∧ value.repeatedKey = none ∧ repeatedInEntries (key :: seen) rest = none := by
  rw [repeatedInEntries]
  by_cases met : key ∈ seen
  · simp [met]
  · cases value.repeatedKey <;> simp [met]

/-- A mapping repeats no key if its keys differ, from each other and from those seen before, and no
value repeats one. -/
theorem repeatedInEntries_eq_none_iff :
    repeatedInEntries seen entries = none ↔
      (keys entries).Nodup ∧ (∀ key ∈ keys entries, key ∉ seen) ∧
        ∀ entry ∈ entries, entry.2.repeatedKey = none := by
  induction entries generalizing seen with
  | nil => simp [repeatedInEntries, keys]
  | cons entry rest ih =>
    obtain ⟨key, value⟩ := entry
    have apart : (∀ other ∈ keys rest, other ∉ key :: seen) ↔
        key ∉ keys rest ∧ ∀ other ∈ keys rest, other ∉ seen := by
      simp only [List.mem_cons, not_or, forall_and]
      refine and_congr_left fun _ => ⟨fun ne mem => ne key mem rfl, ?_⟩
      rintro fresh other mem rfl
      exact fresh mem
    have shape : keys ((key, value) :: rest) = key :: keys rest := rfl
    rw [repeatedInEntries_cons_eq_none_iff, ih, apart, shape]
    simp only [List.nodup_cons, List.forall_mem_cons]
    tauto

theorem repeatedKey_of_inside {part : Document} (h : Inside part document)
    (written : document.repeatedKey = none) : part.repeatedKey = none := by
  induction h with
  | whole => exact written
  | item mem _ ih =>
    rw [repeatedKey, repeatedInItems_eq_none_iff] at written
    exact ih (written _ mem)
  | value mem _ ih =>
    rw [repeatedKey, repeatedInEntries_eq_none_iff] at written
    exact ih (written.2.2 _ mem)

theorem repeatedKey_eq_none_iff : document.repeatedKey = none ↔ document.Unambiguous := by
  constructor
  · intro written entries inside
    have inner := repeatedKey_of_inside inside written
    rw [repeatedKey, repeatedInEntries_eq_none_iff] at inner
    exact inner.1
  · intro differ
    induction document using inductionOn with
    | list items ih =>
      rw [repeatedKey, repeatedInItems_eq_none_iff]
      exact fun item mem => ih item mem fun entries inside => differ entries (.item mem inside)
    | mapping entries ih =>
      rw [repeatedKey, repeatedInEntries_eq_none_iff]
      exact ⟨differ entries .whole, by simp,
        fun entry mem => ih entry mem fun inner inside => differ inner (.value mem inside)⟩
    | _ => rfl

/-! Making a document anew -/

theorem put_of_not_mem (fresh : key ∉ keys made) : put key value made = made ++ [(key, value)] := by
  induction made with
  | nil => rfl
  | cons entry rest ih =>
    obtain ⟨ne, fresh⟩ : key ≠ entry.1 ∧ key ∉ keys rest := by simpa [keys] using fresh
    rw [put, if_neg (Ne.symm ne), ih fresh, List.cons_append]

/-- What making a document anew gives if the document has been walked through with some result. -/
def remade {α : Type} (whole : α) : Option String → Except String α
  | none => .ok whole
  | some key => .error key

theorem rebuildItems_eq (ih : ∀ item ∈ items, item.rebuild = remade item item.repeatedKey) :
    rebuildItems items = remade items (repeatedInItems items) := by
  induction items with
  | nil => rfl
  | cons item rest ihRest =>
    obtain ⟨first, others⟩ := List.forall_mem_cons.mp ih
    rw [rebuildItems, repeatedInItems, first]
    cases item.repeatedKey with
    | some key => rfl
    | none =>
      simp only [remade, bind, Except.bind, ihRest others]
      cases repeatedInItems rest <;> rfl

/-- A key that is fresh is put after those that are made, and nothing that is made is lost. -/
theorem rebuildEntries_eq
    (ih : ∀ entry ∈ entries, entry.2.rebuild = remade entry.2 entry.2.repeatedKey)
    (same : ∀ key, key ∈ keys made ↔ key ∈ seen) :
    rebuildEntries made entries = remade (made ++ entries) (repeatedInEntries seen entries) := by
  induction entries generalizing made seen with
  | nil => simp [rebuildEntries, repeatedInEntries, remade]
  | cons entry rest ihRest =>
    obtain ⟨key, value⟩ := entry
    obtain ⟨first, others⟩ := List.forall_mem_cons.mp ih
    rw [rebuildEntries, repeatedInEntries]
    by_cases met : key ∈ seen
    · simp [met, same, remade]
    · have fresh : key ∉ keys made := fun mem => met ((same key).mp mem)
      have same' : ∀ other, other ∈ keys (made ++ [(key, value)]) ↔ other ∈ key :: seen := by
        intro other
        simp [keys, ← same, or_comm]
      simp only [met, fresh, if_false, first]
      cases value.repeatedKey with
      | some inner => rfl
      | none =>
        simp only [remade, bind, Except.bind, put_of_not_mem fresh, ihRest others same',
          List.append_assoc, List.singleton_append]

/-- A document made anew is the one that was read, with every item and every entry in its place,
unless a key is repeated. -/
theorem rebuild_eq (document : Document) :
    document.rebuild = remade document document.repeatedKey := by
  induction document using inductionOn with
  | list items ih =>
    rw [rebuild, repeatedKey, rebuildItems_eq ih]
    cases repeatedInItems items <;> rfl
  | mapping entries ih =>
    have made : rebuildEntries [] entries = remade ([] ++ entries) (repeatedInEntries [] entries) :=
      rebuildEntries_eq ih (by simp [keys])
    rw [rebuild, repeatedKey, made]
    cases repeatedInEntries [] entries <;> rfl
  | _ => rfl

theorem rebuild_eq_ok_iff {made : Document} :
    document.rebuild = .ok made ↔ document.Unambiguous ∧ made = document := by
  rw [rebuild_eq, ← repeatedKey_eq_none_iff]
  cases document.repeatedKey <;> simp [remade, eq_comm]

theorem rebuild_eq_error_iff :
    document.rebuild = .error key ↔ document.repeatedKey = some key := by
  rw [rebuild_eq]
  cases document.repeatedKey <;> simp [remade]

end ProfilingSession.Document
