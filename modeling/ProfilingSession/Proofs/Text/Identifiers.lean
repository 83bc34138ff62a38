import Mathlib
import ProfilingSession.Text.Words

/-!
# Identifiers and the case of letters

An identifier is a text of the form `[A-Za-z_][A-Za-z0-9_]*`, with ASCII letters and digits only.
Texts that have the same small letters have the same capitals, so either says that they are equal
up to the case of ASCII letters.
-/

namespace ProfilingSession.Text

def IsLetter (c : Char) : Prop :=
  'A' ≤ c ∧ c ≤ 'Z' ∨ 'a' ≤ c ∧ c ≤ 'z'

def IsDigit (c : Char) : Prop :=
  '0' ≤ c ∧ c ≤ '9'

/-- A letter or an underscore, and then letters, digits and underscores. -/
def IsIdentifier (s : String) : Prop :=
  ∃ first rest, s.toList = first :: rest ∧ (IsLetter first ∨ first = '_') ∧
    ∀ c ∈ rest, IsLetter c ∨ IsDigit c ∨ c = '_'

theorem isAlpha_iff {c : Char} : c.isAlpha = true ↔ IsLetter c := by
  simp [Char.isAlpha, Char.isUpper, Char.isLower, IsLetter, Char.le_def]

theorem isAlphanum_iff {c : Char} : c.isAlphanum = true ↔ IsLetter c ∨ IsDigit c := by
  simp [Char.isAlphanum, isAlpha_iff, Char.isDigit, IsDigit, Char.le_def]

theorem isIdentifier_iff {s : String} : isIdentifier s = true ↔ IsIdentifier s := by
  unfold isIdentifier IsIdentifier
  cases s.toList with
  | nil => simp
  | cons first rest =>
    simp only [Bool.and_eq_true, Bool.or_eq_true, List.all_eq_true, beq_iff_eq, isAlpha_iff,
      isAlphanum_iff, or_assoc]
    constructor
    · rintro ⟨start, others⟩
      exact ⟨first, rest, rfl, start, others⟩
    · rintro ⟨_, _, same, start, others⟩
      cases same
      exact ⟨start, others⟩

theorem upper_lower (s : String) : upper (lower s) = upper s := by
  simp [upper, lower, Function.comp_def]

theorem lower_upper (s : String) : lower (upper s) = lower s := by
  simp [upper, lower, Function.comp_def]

/-- Texts with the same small letters are those with the same capitals. -/
theorem lower_eq_lower_iff {s t : String} : lower s = lower t ↔ upper s = upper t := by
  constructor
  · intro same
    rw [← upper_lower s, same, upper_lower]
  · intro same
    rw [← lower_upper s, same, lower_upper]

theorem sameLetters_iff {s t : String} : sameLetters s t = true ↔ lower s = lower t := by
  rw [lower_eq_lower_iff, sameLetters, beq_iff_eq]

end ProfilingSession.Text
