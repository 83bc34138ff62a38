import ProfilingSession.Proofs.Decimal.Shortest
import ProfilingSession.Proofs.Document.JsonScalars
import ProfilingSession.Session.Report

/-!
# The run time in a record

The run time of a report is written as a number with a fraction or an exponent. As long as its whole
seconds fit into 64 bits, it has at most 65 digits before the point, so that a reader of the record
does not find it too great.
-/

namespace ProfilingSession

open Decimal (Binary64 lead shortest value)
open Document.Json (IsExponentText IsFractionText IsNumberText greatestWord)
open Text (IsDecimal readNumber)

/-- A duration with at most as many seconds as 64 bits hold. -/
def Duration.InRange (d : Duration) : Prop :=
  d.seconds < 2 ^ 64

theorem Duration.InRange.secondsMagnitude_le {d : Duration} (inRange : d.InRange) :
    d.secondsMagnitude ≤ 1089 * 2 ^ 52 := by
  have whole : Binary64.nearest d.seconds 1 ≤ 1087 * 2 ^ 52 := Binary64.nearest_one_le 64 inRange
  have subseconds : d.subseconds < 2 ^ 30 :=
    Nat.lt_trans (Nat.mod_lt _ (by decide)) (by decide : perSecond < 2 ^ 30)
  have divisor : 2 ^ 29 * Binary64.unit ≤ Binary64.scaled (Binary64.nearest perSecond 1) :=
    Binary64.two_pow_mul_unit_le (by decide) (by decide)
  have rest : Binary64.quotient (Binary64.nearest d.subseconds 1) (Binary64.nearest perSecond 1) ≤
      1025 * 2 ^ 52 :=
    Binary64.quotient_le 1022 29 (Binary64.nearest_one_le 30 subseconds) divisor
  have rest' := Nat.le_trans rest (by decide : 1025 * 2 ^ 52 ≤ 1087 * 2 ^ 52)
  exact Binary64.sum_le 1085 whole rest'

theorem Duration.InRange.value_shortest_le {d : Duration} (inRange : d.InRange) :
    value (shortest d.secondsMagnitude) ≤ 10 ^ 64 := by
  have bound := Decimal.value_shortest_le_two_pow 67 inRange.secondsMagnitude_le
  exact bound.trans (by norm_num)

namespace Report

variable {digits fraction exponent : List Char} {n : Nat} {d : Decimal.Decimal}

/-- Some digits, of which the first is not zero. -/
structure AreSignificant (digits : List Char) : Prop where
  nonempty : digits ≠ []
  all : ∀ c ∈ digits, c.isDigit = true
  start : digits.head? ≠ some '0'

theorem areSignificant_toDigits (nonzero : n ≠ 0) : AreSignificant (Nat.toDigits 10 n) where
  nonempty := Nat.toDigits_ne_nil
  all _ mem := Nat.isDigit_of_mem_toDigits (by decide) (by decide) mem
  start zero := by
    have value := Nat.ofDigitChars_ten_toDigits (n := n)
    rw [Text.toDigits_eq_of_head? zero] at value
    exact nonzero value.symm

theorem isFractionText_of_digits (nonempty : digits ≠ []) (all : ∀ c ∈ digits, c.isDigit = true) :
    IsFractionText ('.' :: digits) := by
  obtain ⟨n, read, -⟩ := Text.exists_readNumber nonempty all
  exact .digits read

namespace AreSignificant

variable (significant : AreSignificant digits)
include significant

theorem append {more : List Char} (all : ∀ c ∈ more, c.isDigit = true) :
    AreSignificant (digits ++ more) where
  nonempty := List.append_ne_nil_of_left_ne_nil significant.nonempty more
  all := List.forall_mem_append.mpr ⟨significant.all, all⟩
  start := by
    rw [List.head?_append_of_ne_nil _ significant.nonempty]
    exact significant.start

theorem take {count : Nat} (positive : 0 < count) : AreSignificant (digits.take count) where
  nonempty := by
    rw [Ne, List.take_eq_nil_iff, not_or]
    exact ⟨positive.ne', significant.nonempty⟩
  all _ mem := significant.all _ (List.mem_of_mem_take mem)
  start := by
    rw [List.head?_take, if_neg positive.ne']
    exact significant.start

/-- Up to nineteen digits fit into 64 bits. -/
theorem exists_isDecimal (short : digits.length ≤ 19) :
    ∃ n, IsDecimal digits n ∧ n ≤ greatestWord := by
  obtain ⟨n, read, small⟩ := Text.exists_readNumber significant.nonempty significant.all
  have fits : 10 ^ digits.length ≤ greatestWord :=
    Nat.le_trans (Nat.pow_le_pow_right (by decide) short) (by decide)
  exact ⟨n, ⟨read, fun zero => absurd zero significant.start⟩,
    Nat.le_trans (Nat.le_of_lt small) fits⟩

theorem isNumberText_fraction (short : digits.length ≤ 19) (nonempty : fraction ≠ [])
    (all : ∀ c ∈ fraction, c.isDigit = true) : IsNumberText (digits ++ '.' :: fraction) := by
  obtain ⟨n, decimal, fits⟩ := significant.exists_isDecimal short
  have number := IsNumberText.number decimal fits (isFractionText_of_digits nonempty all) .none
    (by simp)
  rwa [List.append_nil] at number

theorem isNumberText_exponent (isExponent : IsExponentText exponent) (more : exponent ≠ []) :
    IsNumberText (Decimal.pointAfterFirst digits ++ exponent) := by
  have first := significant.take Nat.one_pos
  have all := significant.all
  obtain ⟨c, others, rfl⟩ := List.exists_cons_of_ne_nil significant.nonempty
  obtain ⟨n, decimal, fits⟩ := first.exists_isDecimal (Nat.le_add_left 1 18)
  cases others with
  | nil => exact .number decimal fits .none isExponent more
  | cons second others =>
    have isFraction := isFractionText_of_digits (List.cons_ne_nil second others)
      (List.forall_mem_cons.mp all).2
    exact .number decimal fits isFraction isExponent (by simp)

end AreSignificant

theorem isNumberText_below_one (nonempty : fraction ≠ []) (all : ∀ c ∈ fraction, c.isDigit = true) :
    IsNumberText ('0' :: '.' :: fraction) := by
  have zero : IsDecimal ['0'] 0 := ⟨by decide, fun _ => rfl⟩
  have number := IsNumberText.number zero (Nat.zero_le _) (isFractionText_of_digits nonempty all)
    .none (by simp)
  rwa [List.append_nil] at number

theorem isDigit_of_mem_replicate {count : Nat} :
    ∀ c ∈ List.replicate count '0', c.isDigit = true := by
  intro c mem
  rw [List.eq_of_mem_replicate mem]
  rfl

theorem isExponentText_down (n : Nat) : IsExponentText ("e-" ++ toString n).toList := by
  rw [String.toList_append]
  exact .down (Text.isDecimal_toString n).1

theorem isExponentText_up (small : n ≤ 64) : IsExponentText ("e+" ++ toString n).toList := by
  rw [String.toList_append]
  exact .up (Text.isDecimal_toString n).1 small

/-- A decimal other than zero is written as a number, however it is laid out. -/
theorem isNumberText_text {layout : Decimal.Layout} (highest : layout.highest ≤ 18)
    (up : layout.positiveMark = "e+") (down : layout.negativeMark = "e-")
    (nonzero : d.digits ≠ 0) (small : lead d ≤ 64) : IsNumberText (layout.text d).toList := by
  have significant := areSignificant_toDigits nonzero
  have positive := List.length_pos_iff.mpr significant.nonempty
  rw [lead] at small
  rw [Decimal.Layout.text, if_neg nonzero, up, down]
  simp only
  generalize Nat.toDigits 10 d.digits = digits at *
  split
  · next positional =>
    simp only [Bool.and_eq_true, decide_eq_true_eq] at positional
    split
    · rw [String.toList_append, String.toList_ofList]
      refine (significant.append isDigit_of_mem_replicate).isNumberText_fraction ?_
        (List.cons_ne_nil '0' []) (List.forall_mem_singleton.mpr rfl)
      rw [List.length_append, List.length_replicate]
      omega
    · split
      · have point (whole fraction : List Char) :
            (String.ofList whole ++ "." ++ String.ofList fraction).toList =
              whole ++ '.' :: fraction := by simp
        rw [point]
        refine (significant.take (by omega)).isNumberText_fraction ?_ ?_
          fun c mem => significant.all c (List.mem_of_mem_drop mem)
        · rw [List.length_take]
          omega
        · rw [Ne, List.drop_eq_nil_iff]
          omega
      · have point (fraction : List Char) :
            ("0." ++ String.ofList fraction).toList = '0' :: '.' :: fraction := by simp
        rw [point]
        exact isNumberText_below_one
          (List.append_ne_nil_of_right_ne_nil _ significant.nonempty)
          (List.forall_mem_append.mpr ⟨isDigit_of_mem_replicate, significant.all⟩)
  · rw [String.toList_append, String.toList_ofList]
    split
    · exact significant.isNumberText_exponent (isExponentText_up (by omega)) (by simp)
    · exact significant.isNumberText_exponent (isExponentText_down _) (by simp)

/-- The run time is written as a number. -/
theorem isNumberText_runTimeText {report : Report} (inRange : report.runTime.InRange) :
    IsNumberText report.runTimeText.toList := by
  rw [runTimeText]
  by_cases zero : (shortest report.runTime.secondsMagnitude).digits = 0
  · rw [Decimal.Layout.text, if_pos zero]
    exact isNumberText_below_one (List.cons_ne_nil '0' []) (List.forall_mem_singleton.mpr rfl)
  · exact isNumberText_text (by decide) rfl rfl zero
      (Decimal.lead_le zero inRange.value_shortest_le)

end Report

end ProfilingSession
