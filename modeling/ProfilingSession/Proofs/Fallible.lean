import Mathlib.Data.List.Forall2

/-!
# Computations that may fail

When a computation of several steps gives a value: each of its steps has to give one, and of a
list each element. Otherwise it fails as the first step or element does that gives none.
-/

namespace ProfilingSession

variable {α β ε : Type}

/-- What comes after a step gives a value if the step does, and with the value of that. -/
theorem bind_eq_ok_iff {first : Except ε α} {next : α → Except ε β} {value : β} :
    (first >>= next) = .ok value ↔ ∃ between, first = .ok between ∧ next between = .ok value := by
  cases first <;> simp [bind, Except.bind]

/-- What comes after a step fails as the step does, or by itself. -/
theorem bind_eq_error_iff {first : Except ε α} {next : α → Except ε β} {fault : ε} :
    (first >>= next) = .error fault ↔
      first = .error fault ∨ ∃ between, first = .ok between ∧ next between = .error fault := by
  cases first <;> simp [bind, Except.bind]

theorem map_eq_ok_iff {first : Except ε α} {make : α → β} {value : β} :
    first.map make = .ok value ↔ ∃ between, first = .ok between ∧ make between = value := by
  cases first <;> simp [Except.map]

theorem map_eq_error_iff {first : Except ε α} {make : α → β} {fault : ε} :
    first.map make = .error fault ↔ first = .error fault := by
  cases first <;> simp [Except.map]

theorem ite_error_eq_ok_iff {c : Prop} [Decidable c] {fault : ε} {rest : Except ε α} {value : α} :
    (if c then .error fault else rest) = .ok value ↔ ¬ c ∧ rest = .ok value := by
  by_cases h : c <;> simp [h]

theorem mapError_eq_ok_iff {ζ : Type} {first : Except ε α} {tell : ε → ζ} {value : α} :
    first.mapError tell = .ok value ↔ first = .ok value := by
  cases first <;> simp [Except.mapError]

theorem mapError_eq_error_iff {ζ : Type} {first : Except ε α} {tell : ε → ζ} {fault : ζ} :
    first.mapError tell = .error fault ↔ ∃ cause, first = .error cause ∧ tell cause = fault := by
  cases first <;> simp [Except.mapError]

/-- A computation fails, if it does, for one of some faults. -/
def FailsBy (faults : List ε) (answer : Except ε α) : Prop :=
  ∀ fault, answer = .error fault → fault ∈ faults

namespace FailsBy

variable {faults more : List ε} {first : Except ε α} {next : α → Except ε β} {fault : ε}

theorem ok (value : α) : FailsBy faults (.ok value) :=
  fun _ => nofun

theorem error (mem : fault ∈ faults) : FailsBy faults (.error fault : Except ε α) := by
  rintro _ ⟨⟩
  exact mem

theorem bind (h : FailsBy faults first) (rest : ∀ value, FailsBy faults (next value)) :
    FailsBy faults (first >>= next) := by
  intro fault failed
  rcases bind_eq_error_iff.mp failed with failed | ⟨value, -, failed⟩
  · exact h fault failed
  · exact rest value fault failed

theorem mono (h : FailsBy faults first) (sub : faults ⊆ more) : FailsBy more first :=
  fun fault failed => sub (h fault failed)

end FailsBy

/-- An optional element is read if it is there. -/
theorem mapM_some_eq_ok_iff {read : α → Except ε β} {entry : α} {value? : Option β} :
    (some entry).mapM read = .ok value? ↔ ∃ value, read entry = .ok value ∧ some value = value? := by
  rw [Option.mapM_some]
  exact map_eq_ok_iff

theorem mapM_some_eq_error_iff {read : α → Except ε β} {entry : α} {fault : ε} :
    (some entry).mapM read = .error fault ↔ read entry = .error fault := by
  rw [Option.mapM_some]
  exact map_eq_error_iff

/-- Two ways to read that agree on each element of a list agree on the list. -/
theorem mapM_congr {read read' : α → Except ε β} {entries : List α}
    (same : ∀ entry ∈ entries, read entry = read' entry) :
    entries.mapM read = entries.mapM read' := by
  induction entries with
  | nil => rfl
  | cons entry rest ih =>
    obtain ⟨first, others⟩ := List.forall_mem_cons.mp same
    rw [List.mapM_cons, List.mapM_cons, first, ih others]

/-- Each element is read by itself, and all have to be read. -/
theorem mapM_eq_ok_iff {read : α → Except ε β} {entries : List α} {values : List β} :
    entries.mapM read = .ok values ↔
      List.Forall₂ (fun entry value => read entry = .ok value) entries values := by
  induction entries generalizing values with
  | nil => simp [pure, Except.pure, eq_comm]
  | cons entry rest ih =>
    simp only [List.mapM_cons, List.forall₂_cons_left_iff, bind_eq_ok_iff, ih]
    simp [pure, Except.pure, eq_comm]

/-- A list can be read if each of its elements can. -/
theorem exists_mapM_eq_ok_iff {read : α → Except ε β} {entries : List α} :
    (∃ values, entries.mapM read = .ok values) ↔
      ∀ entry ∈ entries, ∃ value, read entry = .ok value := by
  simp only [mapM_eq_ok_iff]
  induction entries with
  | nil => simp
  | cons entry rest ih =>
    rw [List.forall_mem_cons, ← ih]
    constructor
    · rintro ⟨_, _ | ⟨first, others⟩⟩
      exact ⟨⟨_, first⟩, _, others⟩
    · rintro ⟨⟨value, first⟩, values, others⟩
      exact ⟨value :: values, .cons first others⟩

/-- The first element that cannot be read is why a list cannot be. -/
theorem mapM_eq_error_iff {read : α → Except ε β} {entries : List α} {fault : ε} :
    entries.mapM read = .error fault ↔
      ∃ before entry after, entries = before ++ entry :: after ∧
        (∀ other ∈ before, ∃ value, read other = .ok value) ∧ read entry = .error fault := by
  induction entries with
  | nil => simp [pure, Except.pure]
  | cons entry rest ih =>
    simp only [List.mapM_cons, bind_eq_error_iff, ih]
    constructor
    · rintro (failed | ⟨value, read', ⟨before, entry', after, rfl, others, failed⟩ | ⟨_, -, done⟩⟩)
      · exact ⟨[], entry, rest, rfl, by simp, failed⟩
      · exact ⟨entry :: before, entry', after, rfl,
          List.forall_mem_cons.mpr ⟨⟨value, read'⟩, others⟩, failed⟩
      · cases done
    · rintro ⟨before, entry', after, shape, others, failed⟩
      cases before with
      | nil =>
        obtain ⟨rfl, -⟩ := List.cons.inj shape
        exact .inl failed
      | cons first before =>
        obtain ⟨rfl, rfl⟩ := List.cons.inj shape
        obtain ⟨⟨value, read'⟩, others⟩ := List.forall_mem_cons.mp others
        exact .inr ⟨value, read', .inl ⟨before, entry', after, rfl, others, failed⟩⟩

/-- What is read of a list is what one function gives for each of its elements. -/
theorem exists_map_of_mapM [Inhabited β] {read : α → Except ε β} {entries : List α}
    {values : List β} (done : entries.mapM read = .ok values) :
    ∃ made : α → β, values = entries.map made ∧
      ∀ entry ∈ entries, read entry = .ok (made entry) := by
  refine ⟨fun entry => (read entry).toOption.getD default, ?_⟩
  have each := mapM_eq_ok_iff.mp done
  clear done
  induction each with
  | nil => simp
  | cons first _ ih =>
    obtain ⟨rfl, others⟩ := ih
    simp only [List.map_cons, List.forall_mem_cons, first]
    exact ⟨rfl, rfl, others⟩

theorem exists_of_mem_forall₂ {related : α → β → Prop} {entries : List α} {values : List β}
    (h : List.Forall₂ related entries values) {value : β} (mem : value ∈ values) :
    ∃ entry ∈ entries, related entry value := by
  induction h with
  | nil => cases mem
  | cons first _ ih =>
    rcases List.mem_cons.mp mem with rfl | mem
    · exact ⟨_, List.mem_cons_self, first⟩
    · obtain ⟨entry, mem', found⟩ := ih mem
      exact ⟨entry, List.mem_cons_of_mem _ mem', found⟩

end ProfilingSession
