import Mathlib.Data.List.Nodup
import ProfilingSession.Document

/-!
# First repeats

`IsFirstRepeat names name` says that `name` stands somewhere in the list `names` where it has been
before, and that up to there no name has been before. A list without repeats has none, and any
other list exactly one.

A search goes through a list with the names that it has seen. `Reports label earlier names` relates
its answer to the list: nothing if no name repeats, and otherwise the label of the first repeat.
The names may carry more than their label, as the keys of a document do, which are repeats only in
one mapping. Answers for the parts of a list are joined by `Reports.append` and
`Reports.append_of_some`.
-/

namespace ProfilingSession

variable {α β : Type} {label : α → β} {earlier names more : List α} {name : α}

/-- A name that is among `earlier` or before in the list, while none before it is. -/
def IsFirstRepeatAfter (earlier names : List α) (name : α) : Prop :=
  ∃ before after, names = before ++ name :: after ∧ (earlier ++ before).Nodup ∧
    name ∈ earlier ++ before

/-- A name that is before in the list, while none before it is. -/
def IsFirstRepeat (names : List α) (name : α) : Prop :=
  ∃ before after, names = before ++ name :: after ∧ before.Nodup ∧ name ∈ before

theorem isFirstRepeatAfter_nil : IsFirstRepeatAfter [] names name ↔ IsFirstRepeat names name :=
  Iff.rfl

namespace IsFirstRepeatAfter

theorem head (differ : earlier.Nodup) (mem : name ∈ earlier) :
    IsFirstRepeatAfter earlier (name :: names) name :=
  ⟨[], names, rfl, by simpa using differ, by simpa using mem⟩

theorem append (h : IsFirstRepeatAfter (earlier ++ names) more name) :
    IsFirstRepeatAfter earlier (names ++ more) name := by
  obtain ⟨before, after, rfl, differ, mem⟩ := h
  rw [List.append_assoc] at differ mem
  exact ⟨names ++ before, after, by simp, differ, mem⟩

theorem append_right (h : IsFirstRepeatAfter earlier names name) (more : List α) :
    IsFirstRepeatAfter earlier (names ++ more) name := by
  obtain ⟨before, after, rfl, differ, mem⟩ := h
  exact ⟨before, after ++ more, by simp, differ, mem⟩

end IsFirstRepeatAfter

namespace IsFirstRepeat

theorem not_nodup (h : IsFirstRepeat names name) : ¬ names.Nodup := by
  obtain ⟨before, after, rfl, -, mem⟩ := h
  intro differ
  exact (List.nodup_append.mp differ).2.2 name mem name List.mem_cons_self rfl

/-- The part before the first repeat is the longest one without repeats. -/
theorem unique {other : α} (h : IsFirstRepeat names name) (h' : IsFirstRepeat names other) :
    name = other := by
  obtain ⟨before, after, shape, differ, mem⟩ := h
  obtain ⟨before', after', shape', differ', mem'⟩ := h'
  have same : before ++ name :: after = before' ++ other :: after' := shape.symm.trans shape'
  rcases List.append_eq_append_iff.mp same with ⟨between, rfl, rest⟩ | ⟨between, rfl, rest⟩
  · cases between with
    | nil => exact (List.cons.inj rest).1
    | cons first _ =>
      obtain ⟨rfl, -⟩ := List.cons.inj rest
      exact absurd rfl ((List.nodup_append.mp differ').2.2 _ mem _ List.mem_cons_self)
  · cases between with
    | nil => exact (List.cons.inj rest).1.symm
    | cons first _ =>
      obtain ⟨rfl, -⟩ := List.cons.inj rest
      exact absurd rfl ((List.nodup_append.mp differ).2.2 _ mem' _ List.mem_cons_self)

end IsFirstRepeat

/-- What a search for a repeat answers that has already met `earlier`. -/
def Reports (label : α → β) (earlier names : List α) : Option β → Prop
  | none => (earlier ++ names).Nodup
  | some found => ∃ name, label name = found ∧ IsFirstRepeatAfter earlier names name

namespace Reports

variable {answer : Option β} {found : β}

theorem nil (differ : earlier.Nodup) : Reports label earlier [] none := by
  simpa [Reports] using differ

theorem append (h : Reports label (earlier ++ names) more answer) :
    Reports label earlier (names ++ more) answer := by
  cases answer with
  | none => simpa [Reports] using h
  | some found =>
    obtain ⟨name, same, first⟩ := h
    exact ⟨name, same, first.append⟩

theorem append_of_some (h : Reports label earlier names (some found)) (more : List α) :
    Reports label earlier (names ++ more) (some found) := by
  obtain ⟨name, same, first⟩ := h
  exact ⟨name, same, first.append_right more⟩

theorem eq_none_iff (h : Reports label [] names answer) : answer = none ↔ names.Nodup := by
  cases answer with
  | none => simpa [Reports] using h
  | some found =>
    obtain ⟨name, -, first⟩ := h
    simpa using (isFirstRepeatAfter_nil.mp first).not_nodup

theorem eq_some_iff (h : Reports label [] names answer) :
    answer = some found ↔ ∃ name, label name = found ∧ IsFirstRepeat names name := by
  constructor
  · rintro rfl
    exact h
  · rintro ⟨name, rfl, first⟩
    cases answer with
    | none => exact absurd h first.not_nodup
    | some other =>
      obtain ⟨name', rfl, first'⟩ := h
      rw [first.unique (isFirstRepeatAfter_nil.mp first')]

end Reports

theorem reports_firstRepeatAfter {earlier seen names : List String} (differ : earlier.Nodup)
    (same : ∀ name, name ∈ earlier ↔ name ∈ seen) :
    Reports id earlier names (firstRepeatAfter seen names) := by
  induction names generalizing earlier seen with
  | nil => exact Reports.nil differ
  | cons name rest ih =>
    rw [firstRepeatAfter]
    split
    · next met => exact ⟨name, rfl, .head differ ((same name).mpr met)⟩
    · next fresh =>
      have new : name ∉ earlier := fun mem => fresh ((same name).mp mem)
      have differ' : (earlier ++ [name]).Nodup := by
        rw [← List.concat_eq_append]
        exact differ.concat new
      rw [← List.singleton_append]
      exact (ih differ' fun other => by simp [same, or_comm]).append

theorem reports_firstRepeat (names : List String) : Reports id [] names (firstRepeat names) :=
  reports_firstRepeatAfter List.nodup_nil fun _ => Iff.rfl

theorem firstRepeat_eq_none_iff {names : List String} :
    firstRepeat names = none ↔ names.Nodup :=
  (reports_firstRepeat names).eq_none_iff

theorem firstRepeat_eq_some_iff {names : List String} {name : String} :
    firstRepeat names = some name ↔ IsFirstRepeat names name := by
  rw [(reports_firstRepeat names).eq_some_iff]
  simp

end ProfilingSession
