import Mathlib.Data.List.Infix
import ProfilingSession.Text.Words

/-!
# Where a phrase occurs

A phrase may occur in a text that was put together because it occurs in one of the pieces, or because
it lies across the place where they meet. `NoStart` and `NoEnd` say that a fixed piece has no part in
an occurrence, whatever comes after it or before it, which can be looked up in the piece alone.
-/

namespace ProfilingSession.Text

variable {part piece rest before after : List Char} {c : Char}

theorem occursIn_eq_true_iff : occursIn part rest = true ↔ part <:+: rest := by
  induction rest with
  | nil => simp [occursIn]
  | cons c rest ih => rw [occursIn, Bool.or_eq_true, List.isPrefixOf_iff_prefix, ih, List.infix_cons_iff]

theorem toList_lower_append (s t : String) :
    (lower (s ++ t)).toList = (lower s).toList ++ (lower t).toList := by
  simp [lower]

/-- No occurrence of a part begins in a piece, whatever comes after that. -/
def NoStart (part piece : List Char) : Prop :=
  ∀ tail ∈ piece.tails, tail ≠ [] → ¬ part <+: tail ∧ ¬ tail <+: part

/-- No occurrence of a part ends in a piece, whatever comes before that. -/
def NoEnd (part piece : List Char) : Prop :=
  NoStart part.reverse piece.reverse

instance : Decidable (NoStart part piece) :=
  inferInstanceAs (Decidable (∀ tail ∈ piece.tails, tail ≠ [] → ¬ part <+: tail ∧ ¬ tail <+: part))

instance : Decidable (NoEnd part piece) :=
  inferInstanceAs (Decidable (NoStart part.reverse piece.reverse))

theorem NoStart.append (h : NoStart part piece) {other : List Char} (h' : NoStart part other) :
    NoStart part (piece ++ other) := by
  induction piece with
  | nil => exact h'
  | cons c piece ih =>
    obtain ⟨here, there⟩ := List.forall_mem_cons.mp h
    obtain ⟨begins, continues⟩ := here (List.cons_ne_nil c piece)
    refine List.forall_mem_cons.mpr ⟨fun _ => ⟨fun whole => ?_, fun part' => ?_⟩, ih there⟩
    · rcases List.prefix_or_prefix_of_prefix whole (List.prefix_append (c :: piece) other) with h | h
      · exact begins h
      · exact continues h
    · exact continues ((List.prefix_append (c :: piece) other).trans part')

theorem NoStart.of_append {other : List Char} (h : NoStart part (piece ++ other)) :
    NoStart part other := by
  intro tail mem
  have suffix : tail <:+ piece ++ other :=
    ((List.mem_tails _ _).mp mem).trans (List.suffix_append piece other)
  exact h tail ((List.mem_tails _ _).mpr suffix)

theorem infix_append_left_iff (h : NoStart part piece) : part <:+: piece ++ rest ↔ part <:+: rest := by
  induction piece with
  | nil => rfl
  | cons c piece ih =>
    obtain ⟨here, there⟩ := List.forall_mem_cons.mp h
    rw [List.cons_append, List.infix_cons_iff, ih there, or_iff_right_iff_imp]
    intro begins
    rcases List.prefix_or_prefix_of_prefix begins (List.prefix_append (c :: piece) rest) with h | h
    · exact absurd h (here (List.cons_ne_nil c piece)).1
    · exact absurd h (here (List.cons_ne_nil c piece)).2

theorem infix_append_right_iff (h : NoEnd part piece) :
    part <:+: rest ++ piece ↔ part <:+: rest := by
  rw [← List.reverse_infix, List.reverse_append, infix_append_left_iff h, List.reverse_infix]

/-- A character that a part does not have keeps what is before it apart from what is after it. -/
theorem infix_append_cons_iff (absent : c ∉ part) :
    part <:+: before ++ c :: after ↔ part <:+: before ∨ part <:+: after := by
  have empty {l : List Char} (sub : l ⊆ part) (begins : l <+: c :: after) : l = [] := by
    cases l with
    | nil => rfl
    | cons d l =>
      obtain ⟨rfl, -⟩ := List.cons_prefix_cons.mp begins
      exact absurd (sub List.mem_cons_self) absent
  rw [List.infix_append_iff, List.infix_cons_iff]
  constructor
  · rintro (whole | (begins | whole) | ⟨l, l', rfl, ends, begins⟩)
    · exact .inl whole
    · rw [empty (List.Subset.refl part) begins]
      exact .inl List.nil_infix
    · exact .inr whole
    · rw [empty (List.subset_append_right l l') begins, List.append_nil]
      exact .inl ends.isInfix
  · rintro (whole | whole)
    · exact .inl whole
    · exact .inr (.inl (.inr whole))

end ProfilingSession.Text
