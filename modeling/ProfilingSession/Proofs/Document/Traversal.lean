import ProfilingSession.Proofs.Document.RepeatedKey

/-!
# The keys of a document in reading order

`visits` lists the keys of a document in the order they are read, each with the place of its
mapping: the indices that lead there from the top. Equal keys of different mappings are told apart
by their places, so that a repeat in the list is a repeat in a mapping, and the first one is the
`repeatedKey` of the document.
-/

namespace ProfilingSession.Document

/-- A key, with the place of its mapping. -/
abbrev Visit := List Nat × String

mutual

/-- The keys of a document at a place, in reading order: a key comes before those in its value. -/
def visits (place : List Nat) : Document → List Visit
  | .list items => visitsOfItems place 0 items
  | .mapping entries => visitsOfEntries place 0 entries
  | _ => []

/-- The keys in the items of a list, of which the first one has an index. -/
def visitsOfItems (place : List Nat) (index : Nat) : List Document → List Visit
  | [] => []
  | item :: rest => visits (place ++ [index]) item ++ visitsOfItems place (index + 1) rest

/-- The keys of the entries of a mapping, of which the first one has an index. -/
def visitsOfEntries (place : List Nat) (index : Nat) : List (String × Document) → List Visit
  | [] => []
  | (key, value) :: rest =>
    (place, key) :: (visits (place ++ [index]) value ++ visitsOfEntries place (index + 1) rest)

end

variable {place : List Nat} {index : Nat} {document : Document} {items : List Document}
variable {seen : List String} {entries : List (String × Document)} {earlier more : List Visit}
variable {key : String}

theorem prefix_of_mem_visits {visit : Visit} (mem : visit ∈ visits place document) :
    place <+: visit.1 := by
  induction document using inductionOn generalizing place with
  | list items ih =>
    rw [visits] at mem
    generalize 0 = index at mem
    induction items generalizing index with
    | nil => cases mem
    | cons item rest ihRest =>
      obtain ⟨first, others⟩ := List.forall_mem_cons.mp ih
      rcases List.mem_append.mp mem with mem | mem
      · exact (List.prefix_append place [index]).trans (first mem)
      · exact ihRest others (index + 1) mem
  | mapping entries ih =>
    rw [visits] at mem
    generalize 0 = index at mem
    induction entries generalizing index with
    | nil => cases mem
    | cons entry rest ihRest =>
      obtain ⟨first, others⟩ := List.forall_mem_cons.mp ih
      rcases List.mem_cons.mp mem with rfl | mem
      · exact List.prefix_rfl
      rcases List.mem_append.mp mem with mem | mem
      · exact (List.prefix_append place [index]).trans (first mem)
      · exact ihRest others (index + 1) mem
  | _ => cases mem

/-- A place is not below itself. -/
theorem not_prefix_self (place : List Nat) (index : Nat) : ¬ place ++ [index] <+: place := by
  intro below
  have shorter := below.length_le
  rw [List.length_append, List.length_singleton] at shorter
  omega

/-- Nothing was met yet below a place from an index on. -/
def Ahead (place : List Nat) (index : Nat) (earlier : List Visit) : Prop :=
  ∀ visit ∈ earlier, ∀ later, index ≤ later → ¬ place ++ [later] <+: visit.1

namespace Ahead

/-- What is at an index is not at a later one. -/
theorem append_visits (h : Ahead place index earlier) :
    Ahead place (index + 1) (earlier ++ visits (place ++ [index]) document) := by
  intro visit mem later le below
  rcases List.mem_append.mp mem with mem | mem
  · exact h visit mem later (by omega) below
  · have same := List.prefix_of_prefix_length_le below (prefix_of_mem_visits mem) (by simp)
    have equal : later = index := by simpa using same.eq_of_length (by simp)
    omega

/-- The keys of a mapping are not below it. -/
theorem append_key (h : Ahead place index earlier) :
    Ahead place index (earlier ++ [(place, key)]) := by
  intro visit mem later le below
  rcases List.mem_append.mp mem with mem | mem
  · exact h visit mem later le below
  · obtain rfl := List.mem_singleton.mp mem
    exact not_prefix_self place later below

end Ahead

/-- What holds of a search through the keys of a document at any place, whatever keys of other
places were met before. -/
def Searched (document : Document) : Prop :=
  ∀ place earlier, earlier.Nodup → (∀ visit ∈ earlier, ¬ place <+: visit.1) →
    Reports Prod.snd earlier (visits place document) document.repeatedKey

theorem reports_repeatedInItems (ih : ∀ item ∈ items, Searched item) (differ : earlier.Nodup)
    (ahead : Ahead place index earlier) :
    Reports Prod.snd earlier (visitsOfItems place index items) (repeatedInItems items) := by
  induction items generalizing index earlier with
  | nil => exact Reports.nil differ
  | cons item rest ihRest =>
    obtain ⟨first, others⟩ := List.forall_mem_cons.mp ih
    have searched := first (place ++ [index]) earlier differ
      fun visit mem => ahead visit mem index (Nat.le_refl index)
    rw [repeatedInItems, visitsOfItems]
    cases found : item.repeatedKey with
    | some key =>
      rw [found] at searched
      exact searched.append_of_some _
    | none =>
      rw [found] at searched
      exact (ihRest others searched ahead.append_visits).append

/-- The keys that were met in the mapping at a place are those that were seen in it. -/
theorem reports_repeatedInEntries (ih : ∀ entry ∈ entries, Searched entry.2)
    (differ : earlier.Nodup) (ahead : Ahead place index earlier)
    (same : ∀ key, (place, key) ∈ earlier ↔ key ∈ seen) :
    Reports Prod.snd earlier (visitsOfEntries place index entries)
      (repeatedInEntries seen entries) := by
  induction entries generalizing index earlier seen with
  | nil => exact Reports.nil differ
  | cons entry rest ihRest =>
    obtain ⟨key, value⟩ := entry
    obtain ⟨first, others⟩ := List.forall_mem_cons.mp ih
    rw [repeatedInEntries, visitsOfEntries]
    split
    · next met => exact ⟨(place, key), rfl, .head differ ((same key).mpr met)⟩
    · next fresh =>
      have differ' : (earlier ++ [(place, key)]).Nodup := by
        rw [← List.concat_eq_append]
        exact differ.concat fun mem => fresh ((same key).mp mem)
      have ahead' : Ahead place index (earlier ++ [(place, key)]) := ahead.append_key
      have searched := first (place ++ [index]) _ differ'
        fun visit mem => ahead' visit mem index (Nat.le_refl index)
      rw [← List.singleton_append]
      cases found : value.repeatedKey with
      | some inner =>
        rw [found] at searched
        exact (searched.append_of_some _).append
      | none =>
        rw [found] at searched
        have below : ∀ other, (place, other) ∉ visits (place ++ [index]) value :=
          fun other mem => not_prefix_self place index (prefix_of_mem_visits mem)
        have same' : ∀ other, (place, other) ∈ (earlier ++ [(place, key)]) ++
            visits (place ++ [index]) value ↔ other ∈ key :: seen := by
          intro other
          simp [below, same, or_comm]
        exact (ihRest others searched ahead'.append_visits same').append.append

theorem searched (document : Document) : document.Searched := by
  induction document using inductionOn with
  | list items ih =>
    intro place earlier differ apart
    rw [visits, repeatedKey]
    exact reports_repeatedInItems ih differ fun visit mem later _ below =>
      apart visit mem ((List.prefix_append place [later]).trans below)
  | mapping entries ih =>
    intro place earlier differ apart
    rw [visits, repeatedKey]
    refine reports_repeatedInEntries ih differ (fun visit mem later _ below =>
      apart visit mem ((List.prefix_append place [later]).trans below)) fun key => ?_
    simpa using fun mem => apart (place, key) mem List.prefix_rfl
  | _ => exact fun place earlier differ _ => Reports.nil differ

/-- The key that is repeated first in reading order is the first repeat of a key with its place. -/
theorem repeatedKey_eq_some_iff :
    document.repeatedKey = some key ↔
      ∃ place, IsFirstRepeat (visits [] document) (place, key) := by
  rw [(document.searched [] [] List.nodup_nil (by simp)).eq_some_iff]
  simp

end ProfilingSession.Document
