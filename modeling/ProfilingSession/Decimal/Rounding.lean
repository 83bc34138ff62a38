/-!
# Rounding a quotient

`roundHalfEven num den` is the whole number nearest to `num / den`; a tie goes to the even
neighbour.
-/

namespace ProfilingSession.Decimal

/-- The whole number nearest to `num / den`, a tie going to the even one. -/
def roundHalfEven (num den : Nat) : Nat :=
  let quotient := num / den
  let rest := num % den
  if 2 * rest < den then quotient
  else if den < 2 * rest then quotient + 1
  else quotient + quotient % 2

def digitCount (n : Nat) : Nat :=
  (Nat.toDigits 10 n).length

/-- A number of at least `width` digits, filled up with zeros on the left. -/
def padded (width n : Nat) : String :=
  let digits := Nat.toDigits 10 n
  String.ofList (List.replicate (width - digits.length) '0' ++ digits)

/-- The text of `num / den` with `places` digits after the point, the last one rounded half to
even. -/
def fixed (places num den : Nat) : String :=
  let scaled := roundHalfEven (num * Nat.pow 10 places) den
  toString (scaled / Nat.pow 10 places) ++ "." ++ padded places (scaled % Nat.pow 10 places)

end ProfilingSession.Decimal
