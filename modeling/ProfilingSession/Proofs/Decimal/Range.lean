import Mathlib.Algebra.Group.Nat.Defs
import ProfilingSession.Decimal.Binary64

/-!
# How great magnitudes are

The magnitude nearest to a quotient is as great as the power of two below the quotient says, give or
take the rounding. So sizes are compared by their exponents: `nearest_le` bounds a magnitude by the
bits of the quotient, and `scaled_lt` the value of a magnitude in turn; together they bound the
magnitude of what is divided, by `quotient_le`, multiplied, by `product_le`, or added, by `sum_le`.
-/

namespace ProfilingSession.Decimal

theorem roundHalfEven_le (num den : Nat) : roundHalfEven num den ≤ num / den + 1 := by
  have parity : num / den % 2 < 2 := Nat.mod_lt _ (by decide)
  simp only [roundHalfEven]
  split
  · omega
  · split <;> omega

namespace Binary64

/-- What is left of a number beyond its leading 53 bits is a fraction of the last of them. -/
theorem div_two_pow_lt (n : Nat) : n / 2 ^ (Nat.log2 n - 52) < 2 ^ 53 := by
  rw [Nat.div_lt_iff_lt_mul (Nat.two_pow_pos _), ← Nat.pow_add]
  refine Nat.lt_of_lt_of_le Nat.lt_log2_self (Nat.pow_le_pow_right (by decide) ?_)
  omega

theorem log2_sub_le {n bits : Nat} (small : n < 2 ^ (bits + 53)) : Nat.log2 n - 52 ≤ bits := by
  by_cases zero : n = 0
  · simp [zero]
  · have bound := (Nat.log2_lt zero).mpr small
    omega

theorem nearest_le {num den bits : Nat} (small : num * unit / den < 2 ^ (bits + 53)) :
    nearest num den ≤ (bits + 2) * 2 ^ 52 := by
  unfold nearest
  generalize num * unit = whole at small ⊢
  have rounded := roundHalfEven_le whole (den * 2 ^ (Nat.log2 (whole / den) - 52))
  rw [← Nat.div_div_eq_div_mul] at rounded
  have leading := div_two_pow_lt (whole / den)
  have shift := Nat.mul_le_mul_right (2 ^ 52) (log2_sub_le small)
  calc _ ≤ (Nat.log2 (whole / den) - 52) * 2 ^ 52 +
          roundHalfEven whole (den * 2 ^ (Nat.log2 (whole / den) - 52)) := Nat.min_le_right _ _
    _ ≤ bits * 2 ^ 52 + 2 ^ 53 := Nat.add_le_add shift (Nat.le_trans rounded leading)
    _ = (bits + 2) * 2 ^ 52 := by omega

theorem significand_lt (magnitude : Nat) : (parts magnitude).1 < 2 ^ 53 := by
  have fraction : magnitude % 2 ^ 52 < 2 ^ 52 := Nat.mod_lt _ (by decide)
  simp only [parts, Nat.pow_eq]
  split <;> simp only <;> omega

theorem shift_le {magnitude bits : Nat} (small : magnitude ≤ (bits + 2) * 2 ^ 52) :
    (parts magnitude).2 ≤ bits + 1 := by
  have field : magnitude / 2 ^ 52 ≤ bits + 2 := by omega
  simp only [parts, Nat.pow_eq]
  split <;> simp only <;> omega

theorem scaled_lt {magnitude bits : Nat} (small : magnitude ≤ (bits + 2) * 2 ^ 52) :
    scaled magnitude < 2 ^ (bits + 54) := by
  calc scaled magnitude < 2 ^ 53 * 2 ^ (parts magnitude).2 :=
        Nat.mul_lt_mul_of_pos_right (significand_lt magnitude) (Nat.two_pow_pos _)
    _ ≤ 2 ^ 53 * 2 ^ (bits + 1) :=
        Nat.mul_le_mul_left _ (Nat.pow_le_pow_right (by decide) (shift_le small))
    _ = 2 ^ (bits + 54) := by rw [← Nat.pow_add, Nat.add_comm 53]

theorem unit_eq : unit = 2 ^ 1074 := by decide +kernel

theorem unit_pos : 0 < unit := by decide +kernel

theorem nearest_le_infinite (num den : Nat) : nearest num den ≤ infinite :=
  Nat.min_le_left _ _

theorem two_pow_mul_unit (bits : Nat) : 2 ^ bits * unit = 2 ^ (bits + 1074) := by
  simp only [unit_eq, Nat.pow_add]

theorem nearest_one_le {n : Nat} (bits : Nat) (small : n < 2 ^ bits) :
    nearest n 1 ≤ (bits + 1023) * 2 ^ 52 := by
  refine nearest_le ?_
  rw [Nat.div_one]
  calc n * unit < 2 ^ bits * unit := Nat.mul_lt_mul_of_pos_right small unit_pos
    _ = 2 ^ (bits + 1074) := two_pow_mul_unit bits

theorem le_roundHalfEven (num den : Nat) : num / den ≤ roundHalfEven num den := by
  simp only [roundHalfEven]
  split
  · exact Nat.le_refl _
  · split <;> omega

/-- A number rounded to its leading 53 bits is as great as the bits that are left out say. -/
theorem le_add_roundHalfEven {n bits : Nat} (nonzero : n ≠ 0) (great : bits + 52 ≤ Nat.log2 n) :
    (bits + 1) * 2 ^ 52 ≤
      (Nat.log2 n - 52) * 2 ^ 52 + roundHalfEven n (2 ^ (Nat.log2 n - 52)) := by
  have leading : 2 ^ 52 ≤ n / 2 ^ (Nat.log2 n - 52) := by
    rw [Nat.le_div_iff_mul_le (Nat.two_pow_pos _), ← Nat.pow_add,
      Nat.add_sub_cancel' (Nat.le_trans (Nat.le_add_left _ _) great)]
    exact Nat.log2_self_le nonzero
  rw [Nat.add_one_mul]
  exact Nat.add_le_add (Nat.mul_le_mul_right _ (Nat.le_sub_of_add_le great))
    (Nat.le_trans leading (le_roundHalfEven n _))

theorem le_nearest_one {n bits : Nat} (great : 2 ^ bits ≤ n) (small : bits ≤ 1024) :
    (bits + 1022 + 1) * 2 ^ 52 ≤ nearest n 1 := by
  have whole : 2 ^ (bits + 1022 + 52) ≤ n * unit := by
    rw [Nat.add_assoc, ← two_pow_mul_unit]
    exact Nat.mul_le_mul_right unit great
  have nonzero : n * unit ≠ 0 :=
    Nat.ne_zero_of_lt (Nat.lt_of_lt_of_le (Nat.two_pow_pos _) whole)
  have top : (bits + 1022 + 1) * 2 ^ 52 ≤ 0x7ff * 2 ^ 52 :=
    Nat.mul_le_mul (Nat.add_le_add_right small 1023) (Nat.le_refl _)
  simp only [nearest, infinite, Nat.div_one, Nat.one_mul, Nat.pow_eq]
  exact Nat.le_min.mpr ⟨top, le_add_roundHalfEven nonzero ((Nat.le_log2 nonzero).mpr whole)⟩

theorem le_scaled {magnitude bits : Nat} (great : (bits + 1) * 2 ^ 52 ≤ magnitude) :
    2 ^ (bits + 52) ≤ scaled magnitude := by
  have field : bits + 1 ≤ magnitude / 2 ^ 52 := (Nat.le_div_iff_mul_le (by decide)).mpr great
  have normal : magnitude / 2 ^ 52 ≠ 0 := by omega
  simp only [scaled, parts, Nat.pow_eq, normal, if_false]
  rw [Nat.add_comm bits, Nat.pow_add]
  refine Nat.mul_le_mul (Nat.le_add_left _ _) (Nat.pow_le_pow_right (by decide) ?_)
  omega

theorem two_pow_mul_unit_le {n bits : Nat} (great : 2 ^ bits ≤ n) (small : bits ≤ 1024) :
    2 ^ bits * unit ≤ scaled (nearest n 1) := by
  rw [two_pow_mul_unit]
  exact le_scaled (le_nearest_one great small)

/-- Each bit of the divisor takes one from the dividend, and rounding may add one. -/
theorem quotient_le {magnitude divisor : Nat} (bits shift : Nat)
    (small : magnitude ≤ (bits + shift + 2) * 2 ^ 52)
    (great : 2 ^ shift * unit ≤ scaled divisor) :
    quotient magnitude divisor ≤ (bits + 3) * 2 ^ 52 := by
  refine nearest_le (Nat.div_lt_of_lt_mul ?_)
  calc scaled magnitude * unit < 2 ^ (bits + shift + 54) * unit :=
        Nat.mul_lt_mul_of_pos_right (scaled_lt small) unit_pos
    _ = 2 ^ shift * unit * 2 ^ (bits + 1 + 53) := by
        rw [Nat.mul_right_comm, ← Nat.pow_add]
        congr 2
        omega
    _ ≤ scaled divisor * 2 ^ (bits + 1 + 53) := Nat.mul_le_mul_right _ great

/-- The bits of a product are those of its factors together. -/
theorem product_le {a b aBits bBits : Nat} (bits : Nat) (aSmall : a ≤ (aBits + 2) * 2 ^ 52)
    (bSmall : b ≤ (bBits + 2) * 2 ^ 52) (within : aBits + bBits ≤ bits + 1019) :
    product a b ≤ (bits + 2) * 2 ^ 52 := by
  refine nearest_le (Nat.div_lt_of_lt_mul ?_)
  calc scaled a * scaled b * unit < 2 ^ (aBits + 54) * 2 ^ (bBits + 54) * unit :=
        Nat.mul_lt_mul_of_pos_right
          (Nat.mul_lt_mul_of_lt_of_le (scaled_lt aSmall) (Nat.le_of_lt (scaled_lt bSmall))
            (Nat.two_pow_pos _)) unit_pos
    _ ≤ 2 ^ (bits + 53 + 1074) * unit := by
        rw [← Nat.pow_add]
        exact Nat.mul_le_mul_right unit (Nat.pow_le_pow_right (by decide) (by omega))
    _ = unit * unit * 2 ^ (bits + 53) := by
        rw [← two_pow_mul_unit, Nat.mul_assoc, Nat.mul_comm]

theorem sum_le {a b : Nat} (bits : Nat) (aSmall : a ≤ (bits + 2) * 2 ^ 52)
    (bSmall : b ≤ (bits + 2) * 2 ^ 52) : sum a b ≤ (bits + 4) * 2 ^ 52 := by
  refine nearest_le (?_ : _ < 2 ^ (bits + 2 + 53))
  rw [Nat.mul_div_cancel _ unit_pos]
  calc scaled a + scaled b < 2 ^ (bits + 54) + 2 ^ (bits + 54) :=
        Nat.add_lt_add (scaled_lt aSmall) (scaled_lt bSmall)
    _ = 2 ^ (bits + 2 + 53) := by rw [← Nat.mul_two, ← Nat.pow_succ]

end Binary64

end ProfilingSession.Decimal
