import Mathlib.Algebra.Group.Nat.Defs

/-!
# Reading back lines and numbers

Texts that are joined can be taken apart again if none of them holds the character that separates
them. Lines are ended by a line feed each, which is the same as having one between them and an empty
piece at the end.
-/

namespace ProfilingSession.Text

theorem append_flatMap_cons {α : Type} (c : α) (first : List α) (rest : List (List α)) :
    first ++ rest.flatMap (fun piece => c :: piece) = [c].intercalate (first :: rest) := by
  induction rest generalizing first with
  | nil => simp
  | cons piece rest ih =>
    rw [List.intercalate_cons_cons, ← ih, List.flatMap_cons]
    simp

theorem flatMap_append_singleton {α : Type} (c : α) (pieces : List (List α)) :
    pieces.flatMap (fun piece => piece ++ [c]) = [c].intercalate (pieces ++ [[]]) := by
  induction pieces with
  | nil => simp
  | cons piece rest ih =>
    rw [List.flatMap_cons, ih, List.cons_append, List.intercalate_cons_of_ne_nil (by simp)]

/-- The lines of a text in which every line is ended. -/
def endedLines (s : String) : Option (List String) :=
  let pieces := s.toList.splitOn '\n'
  if pieces.getLast? = some [] then some (pieces.dropLast.map String.ofList) else none

theorem endedLines_join {lines : List String} (h : ∀ line ∈ lines, '\n' ∉ line.toList) :
    endedLines (String.join (lines.map fun line => line ++ "\n")) = some lines := by
  have joined : (String.join (lines.map fun line => line ++ "\n")).toList =
      ['\n'].intercalate (lines.map String.toList ++ [[]]) := by
    rw [← flatMap_append_singleton, String.toList_join, List.flatMap_map, List.flatMap_map]
    simp
  have pieces : (String.join (lines.map fun line => line ++ "\n")).toList.splitOn '\n' =
      lines.map String.toList ++ [[]] := by
    rw [joined]
    refine List.splitOn_intercalate '\n' (fun piece mem => ?_) (by simp)
    rcases List.mem_append.mp mem with mem | mem
    · obtain ⟨line, mem', rfl⟩ := List.mem_map.mp mem
      exact h line mem'
    · rw [List.mem_singleton.mp mem]
      exact List.not_mem_nil
  rw [endedLines, pieces, if_pos List.getLast?_concat, List.dropLast_concat, List.map_map]
  simp [Function.comp_def]

def readNumber (digits : List Char) : Option Nat :=
  if digits ≠ [] ∧ digits.all Char.isDigit then some (Nat.ofDigitChars 10 digits 0) else none

theorem isDigit_of_mem_toString {n : Nat} {c : Char} (h : c ∈ (toString n).toList) :
    c.isDigit = true := by
  rw [Nat.toString_eq_ofList_toDigits, String.toList_ofList] at h
  exact Nat.isDigit_of_mem_toDigits (by decide) (by decide) h

@[simp]
theorem readNumber_toDigits (n : Nat) : readNumber (Nat.toDigits 10 n) = some n := by
  have digits : (Nat.toDigits 10 n).all Char.isDigit = true :=
    List.all_eq_true.mpr fun c mem => Nat.isDigit_of_mem_toDigits (by decide) (by decide) mem
  rw [readNumber, if_pos ⟨Nat.toDigits_ne_nil, digits⟩, Nat.ofDigitChars_ten_toDigits]

/-- The digits of a number in the way it is written: no zero is before other digits. -/
def IsDecimal (digits : List Char) (n : Nat) : Prop :=
  readNumber digits = some n ∧ (digits.head? = some '0' → digits = ['0'])

theorem toDigits_eq_of_head? {n : Nat} (zero : (Nat.toDigits 10 n).head? = some '0') :
    Nat.toDigits 10 n = ['0'] := by
  induction n using Nat.strongRecOn with
  | ind n ih =>
    rw [Nat.toDigits_eq_if (by decide)] at zero ⊢
    split at zero
    · next small =>
      rw [if_pos small]
      simpa using zero
    · next large =>
      have front : (Nat.toDigits 10 (n / 10)).head? = some '0' := by
        rcases Option.or_eq_some_iff.mp (List.head?_append ▸ zero) with front | ⟨empty, -⟩
        · exact front
        · exact absurd (List.head?_eq_none_iff.mp empty) Nat.toDigits_ne_nil
      -- The digits before the last would be one zero, although they are of a positive number.
      have value := Nat.ofDigitChars_ten_toDigits (n := n / 10)
      rw [ih (n / 10) (by omega) front] at value
      have zero : n / 10 = 0 := value.symm
      omega

theorem isDecimal_toString (n : Nat) : IsDecimal (toString n).toList n := by
  rw [Nat.toString_eq_ofList_toDigits, String.toList_ofList]
  exact ⟨readNumber_toDigits n, toDigits_eq_of_head?⟩

theorem digit_le {c : Char} (digit : c.isDigit = true) : c.toNat - '0'.toNat ≤ 9 := by
  have below : c.toNat ≤ '9'.toNat := by
    simp only [Char.isDigit, Bool.and_eq_true, decide_eq_true_eq] at digit
    exact digit.2
  exact Nat.sub_le_of_le_add below

theorem ofDigitChars_lt {digits : List Char} (all : ∀ c ∈ digits, c.isDigit = true) (n : Nat) :
    Nat.ofDigitChars 10 digits n < (n + 1) * 10 ^ digits.length := by
  induction digits generalizing n with
  | nil => simp
  | cons c more ih =>
    obtain ⟨digit, all⟩ := List.forall_mem_cons.mp all
    have below := digit_le digit
    rw [Nat.ofDigitChars_cons, List.length_cons]
    calc Nat.ofDigitChars 10 more (10 * n + (c.toNat - '0'.toNat))
        < (10 * n + (c.toNat - '0'.toNat) + 1) * 10 ^ more.length := ih all _
      _ ≤ (n + 1) * 10 * 10 ^ more.length := Nat.mul_le_mul_right _ (by omega)
      _ = (n + 1) * 10 ^ (more.length + 1) := by rw [Nat.mul_assoc, Nat.pow_add_one']

theorem exists_readNumber {digits : List Char} (nonempty : digits ≠ [])
    (all : ∀ c ∈ digits, c.isDigit = true) :
    ∃ n, readNumber digits = some n ∧ n < 10 ^ digits.length := by
  have bound := ofDigitChars_lt all 0
  rw [Nat.zero_add, Nat.one_mul] at bound
  exact ⟨_, if_pos ⟨nonempty, List.all_eq_true.mpr all⟩, bound⟩

end ProfilingSession.Text
