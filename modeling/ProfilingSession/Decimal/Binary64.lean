import ProfilingSession.Decimal.Rounding

/-!
# Numbers of 64 bits

A number of the binary64 format is kept as its sign and its magnitude, the 63 bits of exponent
and fraction read as one whole number. Magnitudes in this reading are in the order of the values
they stand for, and the value of a finite one is `significand · 2 ^ shift / 2 ^ 1074`, so that
everything here is arithmetic of whole numbers.

`nearest num den` is the magnitude nearest to a quotient, a tie going to the even one; products,
quotients and sums of magnitudes are defined by it, and so is the reading of a decimal.
-/

namespace ProfilingSession.Decimal

/-- A number of the binary64 format. -/
structure Binary64 where
  /-- Whether the sign bit is set. -/
  negative : Bool
  /-- The exponent and fraction fields, as one number below `2 ^ 63`. -/
  magnitude : Nat
  deriving DecidableEq, Repr, Inhabited

namespace Binary64

/-- The magnitude of infinity; greater ones are not numbers. -/
def infinite : Nat := 0x7ff * Nat.pow 2 52

/-- A number is finite when its magnitude is below that of infinity. -/
def isFinite (x : Binary64) : Bool :=
  x.magnitude < infinite

def bits (x : Binary64) : Nat :=
  (if x.negative then Nat.pow 2 63 else 0) + x.magnitude

/-- The significand and the shift of a finite magnitude. -/
def parts (magnitude : Nat) : Nat × Nat :=
  let field := magnitude / Nat.pow 2 52
  let fraction := magnitude % Nat.pow 2 52
  if field = 0 then (fraction, 0) else (fraction + Nat.pow 2 52, field - 1)

/-- The unit in which finite magnitudes are whole: values are multiples of `1 / unit`. -/
def unit : Nat := Nat.pow 2 1074

/-- The value of a finite magnitude, in multiples of `1 / unit`. -/
def scaled (magnitude : Nat) : Nat :=
  (parts magnitude).1 * Nat.pow 2 (parts magnitude).2

/-- The magnitude nearest to `num / den`, a tie going to the even one; what is too great is
infinite. -/
def nearest (num den : Nat) : Nat :=
  let whole := num * unit
  let shift := Nat.log2 (whole / den) - 52
  min infinite (shift * Nat.pow 2 52 + roundHalfEven whole (den * Nat.pow 2 shift))

def product (a b : Nat) : Nat :=
  nearest (scaled a * scaled b) (unit * unit)

def quotient (a b : Nat) : Nat :=
  nearest (scaled a) (scaled b)

def sum (a b : Nat) : Nat :=
  nearest (scaled a + scaled b) unit

/-- The magnitude nearest to `digits · 10 ^ exponent`. Exponents that are out of reach of the
format are told by the number of digits, so that no great power is computed. -/
def nearestDecimal (digits : Nat) (exponent : Int) : Nat :=
  let leading := (digitCount digits : Int) + exponent
  if digits = 0 || leading < -330 then 0
  else if 310 < leading then infinite
  else if 0 ≤ exponent then nearest (digits * Nat.pow 10 exponent.toNat) 1
  else nearest digits (Nat.pow 10 (-exponent).toNat)

end Binary64

end ProfilingSession.Decimal
