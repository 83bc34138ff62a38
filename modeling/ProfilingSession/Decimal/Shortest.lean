import ProfilingSession.Decimal.Binary64

/-!
# The shortest decimal of a number

`shortest magnitude` is the decimal with the fewest digits among those that read back as the given
binary64 number, and the nearest one where several have as few. The reals that read back as a
number form an interval, closed if the significand is even; for each count of digits the two
decimals next to the value are tried against it.

`Layout` says how such a decimal is written: which exponents are positional and how the others
look.
-/

namespace ProfilingSession.Decimal

structure Decimal where
  digits : Nat
  exponent : Int
  deriving DecidableEq, Repr

/-- The reals that round to a finite magnitude, as numerators over `4 * unit`: the middle
to the magnitude below, the value, the middle to the one above, and whether the ends count. -/
def interval (magnitude : Nat) : Nat × Nat × Nat × Bool :=
  let (significand, shift) := Binary64.parts magnitude
  let step := Nat.pow 2 shift
  let value := 4 * significand * step
  let below := if significand = Nat.pow 2 52 && 0 < shift then step else 2 * step
  (value - below, value, value + 2 * step, significand % 2 == 0)

/-- Whether `candidate · power / divisor` lies in the interval of a magnitude. -/
def readsBack (magnitude candidate power divisor : Nat) : Bool :=
  let (low, _, high, closed) := interval magnitude
  let point := candidate * power * (4 * Binary64.unit)
  if closed then low * divisor ≤ point && point ≤ high * divisor
  else low * divisor < point && point < high * divisor

/-- The decimal on the grid `10 ^ exponent` that reads back and is nearest, if there is one; an
exact tie goes to the even one. -/
def onGrid (magnitude : Nat) (exponent : Int) : Option Decimal :=
  let power := if 0 ≤ exponent then Nat.pow 10 exponent.toNat else 1
  let divisor := if 0 ≤ exponent then 1 else Nat.pow 10 (-exponent).toNat
  let num := Binary64.scaled magnitude * divisor
  let den := Binary64.unit * power
  let near := roundHalfEven num den
  let far := if near * den ≤ num then near + 1 else near - 1
  if readsBack magnitude near power divisor then some ⟨near, exponent⟩
  else if readsBack magnitude far power divisor then some ⟨far, exponent⟩
  else none

/-- The decimal exponent of the leading digit of `num / den`, for a positive quotient. -/
def leadingExponent (num den : Nat) : Int :=
  if den ≤ num then (digitCount (num / den) : Int) - 1
  else
    let guess := digitCount (den / num)
    if den ≤ num * Nat.pow 10 (guess - 1) then -((guess : Int) - 1) else -(guess : Int)

/-- The first grid, from the coarsest, on which a decimal reads back. -/
def firstOnGrid (magnitude : Nat) (exponent : Int) : Nat → Decimal
  | 0 => ⟨0, 0⟩
  | tries + 1 =>
    match onGrid magnitude exponent with
    | some found => found
    | none => firstOnGrid magnitude (exponent - 1) tries

/-- The decimal without its trailing zeros. -/
def Decimal.trim (d : Decimal) : Nat → Decimal
  | 0 => d
  | tries + 1 =>
    if d.digits % 10 = 0 then Decimal.trim ⟨d.digits / 10, d.exponent + 1⟩ tries else d

/-- The shortest decimal that reads back as a finite magnitude. Seventeen digits always do. -/
def shortest (magnitude : Nat) : Decimal :=
  if magnitude = 0 then ⟨0, 0⟩
  else
    let lead := leadingExponent (Binary64.scaled magnitude) Binary64.unit
    (firstOnGrid magnitude (lead + 1) 19).trim 20

/-- How a decimal is written. -/
structure Layout where
  /-- The least exponent of the leading digit that is written positionally. -/
  lowest : Int
  /-- The greatest exponent of the leading digit that is written positionally. -/
  highest : Int
  /-- What stands between the digits and the exponent, for a positive exponent. -/
  positiveMark : String
  /-- What stands between the digits and the exponent, for a negative exponent. -/
  negativeMark : String

/-- Digits with a point after the first one, if there are more. -/
def pointAfterFirst : List Char → List Char
  | [] => []
  | [c] => [c]
  | c :: rest => c :: '.' :: rest

/-- The text of a decimal. A whole number that is written positionally ends in `.0`. -/
def Layout.text (layout : Layout) (d : Decimal) : String :=
  if d.digits = 0 then "0.0"
  else
    let digits := Nat.toDigits 10 d.digits
    let lead := (digits.length : Int) - 1 + d.exponent
    if layout.lowest ≤ lead && lead ≤ layout.highest then
      if 0 ≤ d.exponent then
        String.ofList (digits ++ List.replicate d.exponent.toNat '0') ++ ".0"
      else if 0 ≤ lead then
        String.ofList (digits.take (lead + 1).toNat) ++ "." ++
          String.ofList (digits.drop (lead + 1).toNat)
      else
        "0." ++ String.ofList (List.replicate (-lead - 1).toNat '0' ++ digits)
    else
      String.ofList (pointAfterFirst digits) ++
        (if 0 ≤ lead then layout.positiveMark ++ toString lead.natAbs
         else layout.negativeMark ++ toString lead.natAbs)

end ProfilingSession.Decimal
