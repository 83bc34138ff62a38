import ProfilingSession.Proofs.Document.Parts

/-!
# Documents of finite numbers

What making the numbers of a document finite does to it. Nothing is moved and no key changes, so
that the same keys repeat as before; only a number that is not finite becomes null. `Finite` says of
a document that there is none at any depth, and such a document stays as it is.
-/

namespace ProfilingSession.Document

open Decimal (Binary64)

def Finite (document : Document) : Prop :=
  ∀ x, Inside (.float x) document → x.isFinite = true

variable {document body : Document} {items : List Document}
variable {entries : List (String × Document)}

theorem finiteItems_eq_map (items : List Document) : finiteItems items = items.map finite := by
  induction items with
  | nil => rfl
  | cons item rest ih => rw [finiteItems, ih, List.map_cons]

theorem finiteEntries_eq_map (entries : List (String × Document)) :
    finiteEntries entries = entries.map fun entry => (entry.1, entry.2.finite) := by
  induction entries with
  | nil => rfl
  | cons entry rest ih => rw [finiteEntries, ih, List.map_cons]

theorem keys_finiteEntries (entries : List (String × Document)) :
    keys (finiteEntries entries) = keys entries := by
  simp [keys, finiteEntries_eq_map]

theorem finiteEntries_append_cons (before after : List (String × Document))
    (entry : String × Document) :
    finiteEntries (before ++ entry :: after) =
      finiteEntries before ++ (entry.1, entry.2.finite) :: finiteEntries after := by
  simp [finiteEntries_eq_map]

/-- Besides null only a number that is not finite is made null. -/
theorem finite_eq_null_iff :
    document.finite = .null ↔
      document = .null ∨ ∃ x : Binary64, document = .float x ∧ x.isFinite = false := by
  cases document with
  | float x => cases finite' : x.isFinite <;> simp [finite, ofNumber, finite']
  | _ => simp [finite]

theorem Finite.item (h : Finite (.list items)) {item : Document} (mem : item ∈ items) :
    item.Finite :=
  fun x inside => h x (.item mem inside)

theorem Finite.value (h : Finite (.mapping entries)) {entry : String × Document}
    (mem : entry ∈ entries) : entry.2.Finite :=
  fun x inside => h x (.value mem inside)

theorem finite_list_iff : Finite (.list items) ↔ ∀ item ∈ items, item.Finite := by
  constructor
  · intro h item mem
    exact h.item mem
  · intro h x inside
    cases inside with
    | item mem deeper => exact h _ mem x deeper

theorem finite_mapping_iff : Finite (.mapping entries) ↔ ∀ entry ∈ entries, entry.2.Finite := by
  constructor
  · intro h entry mem
    exact h.value mem
  · intro h x inside
    cases inside with
    | value mem deeper => exact h _ mem x deeper

@[simp]
theorem finite_null : Finite .null := fun _ inside => nomatch inside

@[simp]
theorem finite_bool (value : Bool) : Finite (.bool value) := fun _ inside => nomatch inside

@[simp]
theorem finite_int (value : Int) : Finite (.int value) := fun _ inside => nomatch inside

@[simp]
theorem finite_text (value : String) : Finite (.text value) := fun _ inside => nomatch inside

theorem finite_float_iff {x : Binary64} : Finite (.float x) ↔ x.isFinite = true := by
  constructor
  · intro h
    exact h x .whole
  · intro h y inside
    cases inside
    exact h

/-- A document of finite numbers stays as it is. -/
theorem Finite.finite_eq (h : document.Finite) : document.finite = document := by
  induction document using inductionOn with
  | float x => simp [finite, ofNumber, finite_float_iff.mp h]
  | list items ih =>
    have same : ∀ item ∈ items, item.finite = id item := fun item mem => ih item mem (h.item mem)
    rw [finite, finiteItems_eq_map, List.map_congr_left same, List.map_id]
  | mapping entries ih =>
    have same : ∀ entry ∈ entries, (entry.1, entry.2.finite) = id entry :=
      fun entry mem => Prod.ext rfl (ih entry mem (h.value mem))
    rw [finite, finiteEntries_eq_map, List.map_congr_left same, List.map_id]
  | _ => rfl

theorem finiteEntries_eq_self (finite : ∀ entry ∈ entries, entry.2.Finite) :
    finiteEntries entries = entries := by
  have whole := (finite_mapping_iff.mpr finite).finite_eq
  rw [Document.finite] at whole
  exact mapping.inj whole

/-- Every mapping of the document was there before, with the same keys. -/
theorem exists_of_inside_finite (h : Inside (.mapping entries) document.finite) :
    ∃ before, Inside (.mapping before) document ∧ finiteEntries before = entries := by
  induction document using inductionOn with
  | float x =>
    simp only [finite, ofNumber] at h
    split at h <;> cases h
  | list items ih =>
    rw [finite, finiteItems_eq_map] at h
    cases h with
    | item mem deeper =>
      obtain ⟨item, mem', rfl⟩ := List.mem_map.mp mem
      obtain ⟨before, inside, same⟩ := ih item mem' deeper
      exact ⟨before, .item mem' inside, same⟩
  | mapping top ih =>
    rw [finite] at h
    cases h with
    | whole => exact ⟨top, .whole, rfl⟩
    | value mem deeper =>
      rw [finiteEntries_eq_map] at mem
      obtain ⟨entry, mem', rfl⟩ := List.mem_map.mp mem
      obtain ⟨before, inside, same⟩ := ih entry mem' deeper
      exact ⟨before, .value mem' inside, same⟩
  | _ => cases h

theorem Unambiguous.finite (h : document.Unambiguous) : document.finite.Unambiguous := by
  intro entries inside
  obtain ⟨before, inside', rfl⟩ := exists_of_inside_finite inside
  rw [keys_finiteEntries]
  exact h before inside'

end ProfilingSession.Document
