import Mathlib.Algebra.Field.Rat
import Mathlib.Algebra.Order.Field.Power
import Mathlib.Algebra.Order.Ring.Rat
import Mathlib.Tactic.NormNum
import Mathlib.Tactic.Positivity
import Mathlib.Tactic.Ring
import ProfilingSession.Decimal.Shortest
import ProfilingSession.Proofs.Decimal.Range

/-!
# How great the shortest decimal is

The shortest decimal of a magnitude is taken from the interval of the reals that round to it, unless
it is zero, and leaving its trailing zeros away does not change what it stands for. So it is at most
as great as the upper end of the interval, and this bounds the exponent of its leading digit.
-/

namespace ProfilingSession.Decimal

open Binary64 (parts scaled unit)

def value (d : Decimal) : ℚ :=
  d.digits * 10 ^ d.exponent

variable {magnitude bits candidate power divisor : Nat} {exponent : Int} {d : Decimal}

theorem zpow_mul_toNat_neg (exponent : Int) :
    (10 : ℚ) ^ exponent * 10 ^ (-exponent).toNat = 10 ^ exponent.toNat := by
  rw [← zpow_natCast, ← zpow_natCast, ← zpow_add₀ (by norm_num)]
  congr 1
  omega

theorem value_trim (d : Decimal) (tries : Nat) : value (d.trim tries) = value d := by
  induction tries generalizing d with
  | zero => rfl
  | succ tries ih =>
    rw [Decimal.trim]
    split
    · next zero =>
      have whole : ((d.digits / 10 : Nat) : ℚ) * 10 = d.digits := by
        exact_mod_cast Nat.div_mul_cancel (Nat.dvd_of_mod_eq_zero zero)
      rw [ih, value, value, zpow_add_one₀ (by norm_num), ← whole]
      ring
    · rfl

/-! The interval -/

theorem interval_le (small : magnitude ≤ (bits + 2) * 2 ^ 52) :
    (interval magnitude).2.2.1 ≤ 2 ^ (bits + 56) := by
  have significand := Binary64.significand_lt magnitude
  have shift := Binary64.shift_le small
  calc (interval magnitude).2.2.1
      = (4 * (parts magnitude).1 + 2) * 2 ^ (parts magnitude).2 := by
        simp only [interval, Nat.pow_eq, Nat.add_mul]
    _ ≤ 2 ^ 55 * 2 ^ (bits + 1) :=
        Nat.mul_le_mul (by omega) (Nat.pow_le_pow_right (by decide) shift)
    _ = 2 ^ (bits + 56) := by rw [← Nat.pow_add]; congr 1; omega

theorem le_of_readsBack (h : readsBack magnitude candidate power divisor = true) :
    candidate * power * (4 * unit) ≤ (interval magnitude).2.2.1 * divisor := by
  simp only [readsBack] at h
  split at h <;> simp only [Bool.and_eq_true, decide_eq_true_eq] at h
  · exact h.2
  · exact Nat.le_of_lt h.2

theorem readsBack_of_onGrid (found : onGrid magnitude exponent = some d) :
    d.exponent = exponent ∧
      readsBack magnitude d.digits (10 ^ exponent.toNat) (10 ^ (-exponent).toNat) = true := by
  have power : (if 0 ≤ exponent then Nat.pow 10 exponent.toNat else 1) = 10 ^ exponent.toNat := by
    split
    · rfl
    · rw [Int.toNat_of_nonpos (by omega), Nat.pow_zero]
  have divisor :
      (if 0 ≤ exponent then 1 else Nat.pow 10 (-exponent).toNat) = 10 ^ (-exponent).toNat := by
    split
    · rw [Int.toNat_of_nonpos (by omega), Nat.pow_zero]
    · rfl
  have tried : ∃ near far, onGrid magnitude exponent =
      if readsBack magnitude near (10 ^ exponent.toNat) (10 ^ (-exponent).toNat) then
        some ⟨near, exponent⟩
      else if readsBack magnitude far (10 ^ exponent.toNat) (10 ^ (-exponent).toNat) then
        some ⟨far, exponent⟩
      else none :=
    ⟨_, _, by simp only [onGrid, power, divisor]; rfl⟩
  obtain ⟨near, far, tried⟩ := tried
  rw [tried] at found
  split at found
  · next back =>
    obtain rfl := Option.some.inj found
    exact ⟨rfl, back⟩
  · split at found
    · next back =>
      obtain rfl := Option.some.inj found
      exact ⟨rfl, back⟩
    · cases found

/-- A decimal on a grid that reads back is at most as great as the upper end of the interval. -/
theorem value_le_of_onGrid (found : onGrid magnitude exponent = some d) :
    value d * (4 * unit : Nat) ≤ (interval magnitude).2.2.1 := by
  obtain ⟨rfl, back⟩ := readsBack_of_onGrid found
  have bound := le_of_readsBack back
  revert bound
  generalize 4 * unit = scale
  intro bound
  have bound : (d.digits * 10 ^ d.exponent.toNat * scale : ℚ) ≤
      (interval magnitude).2.2.1 * 10 ^ (-d.exponent).toNat := by
    exact_mod_cast bound
  rw [← zpow_mul_toNat_neg] at bound
  refine le_of_mul_le_mul_right ?_ (by positivity : (0 : ℚ) < 10 ^ (-d.exponent).toNat)
  calc value d * scale * 10 ^ (-d.exponent).toNat
      = d.digits * (10 ^ d.exponent * 10 ^ (-d.exponent).toNat) * scale := by
        rw [value]; ring
    _ ≤ _ := bound

theorem value_firstOnGrid_le (magnitude : Nat) (exponent : Int) (tries : Nat) :
    value (firstOnGrid magnitude exponent tries) * (4 * unit : Nat) ≤
      (interval magnitude).2.2.1 := by
  induction tries generalizing exponent with
  | zero =>
    rw [firstOnGrid, value, Nat.cast_zero, zero_mul, zero_mul]
    exact Nat.cast_nonneg _
  | succ tries ih =>
    rw [firstOnGrid]
    split
    · next found => exact value_le_of_onGrid found
    · exact ih (exponent - 1)

theorem value_shortest_le (magnitude : Nat) :
    value (shortest magnitude) * (4 * unit : Nat) ≤ (interval magnitude).2.2.1 := by
  rw [shortest]
  split
  · rw [value, Nat.cast_zero, zero_mul, zero_mul]
    exact Nat.cast_nonneg _
  · rw [value_trim]
    exact value_firstOnGrid_le _ _ _

/-- The shortest decimal of a magnitude is at most the power of two that bounds the magnitude. -/
theorem value_shortest_le_two_pow (bits : Nat) (small : magnitude ≤ (bits + 1022) * 2 ^ 52) :
    value (shortest magnitude) ≤ 2 ^ bits := by
  have bound := value_shortest_le magnitude
  have upper : (interval magnitude).2.2.1 ≤ 2 ^ bits * (4 * unit) := by
    have whole := Binary64.two_pow_mul_unit (bits + 2)
    calc (interval magnitude).2.2.1 ≤ 2 ^ (bits + 1020 + 56) := interval_le small
      _ = 2 ^ (bits + 2) * unit := by rw [whole]
      _ = 2 ^ bits * (4 * unit) := by rw [Nat.pow_add, Nat.mul_assoc]
  have positive : 0 < 4 * unit := Nat.mul_pos (by decide) Binary64.unit_pos
  revert bound upper positive
  generalize 4 * unit = scale
  intro bound upper positive
  refine le_of_mul_le_mul_right (le_trans bound ?_) (Nat.cast_pos.mpr positive)
  exact_mod_cast upper

/-! The leading digit -/

/-- The exponent of the leading digit. -/
def lead (d : Decimal) : Int :=
  (Nat.toDigits 10 d.digits).length - 1 + d.exponent

theorem zpow_lead_le (nonzero : d.digits ≠ 0) : (10 : ℚ) ^ lead d ≤ value d := by
  have length := Nat.length_toDigits_pos (b := 10) (n := d.digits)
  obtain ⟨others, length_eq⟩ := Nat.exists_eq_add_one_of_ne_zero length.ne'
  have great : 10 ^ others ≤ d.digits := by
    rcases Nat.eq_zero_or_pos others with rfl | positive
    · exact Nat.one_le_iff_ne_zero.mpr nonzero
    · refine Nat.not_lt.mp fun small => ?_
      have short := (Nat.length_toDigits_le_iff (by decide) positive).mpr small
      omega
  have exponent_eq : lead d = others + d.exponent := by rw [lead, length_eq]; omega
  rw [exponent_eq, zpow_add₀ (by norm_num), value, zpow_natCast]
  exact mul_le_mul_of_nonneg_right (by exact_mod_cast great) (by positivity)

theorem lead_le {places : Nat} (nonzero : d.digits ≠ 0) (small : value d ≤ 10 ^ places) :
    lead d ≤ places := by
  rw [← zpow_natCast] at small
  exact (zpow_le_zpow_iff_right₀ (by norm_num)).mp ((zpow_lead_le nonzero).trans small)

end ProfilingSession.Decimal
