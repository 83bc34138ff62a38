import ProfilingSession.Decimal.Binary64
import ProfilingSession.Document
import ProfilingSession.Document.Json.Fault

/-!
# Numbers of a JSON text

A whole number that fits into 64 bits, with or without sign, is read exactly. Any other number is
read as a binary64: its leading digits as far as they fit into 64 bits, rounded once, and then one
product with or quotient by a power of ten, rounded again. Digits beyond those change only the
exponent, and minus zero is a binary64 too. A number too large for the format is refused.
-/

namespace ProfilingSession.Document.Json

open Decimal (Binary64)

/-- The greatest whole number of 64 bits. -/
def greatestWord : Nat := Nat.pow 2 64 - 1

def digitValue (c : Char) : Nat := c.toNat - '0'.toNat

/-- Goes on reading digits as long as the number stays within 64 bits: the number, how many digits
were read and what follows. -/
def moreDigits (value count : Nat) : List Char → Nat × Nat × List Char
  | [] => (value, count, [])
  | c :: rest =>
    if c.isDigit && value * 10 + digitValue c ≤ greatestWord then
      moreDigits (value * 10 + digitValue c) (count + 1) rest
    else (value, count, c :: rest)

def startsWithDigit : List Char → Bool
  | c :: _ => c.isDigit
  | [] => false

/-- The magnitude of the greatest power of ten that one step divides by. -/
def greatPower : Nat := Binary64.nearest (Nat.pow 10 308) 1

/-- A magnitude divided by `10 ^ exponent`, in steps of `10 ^ 308` with a rounding each. -/
def divideByPower (magnitude exponent : Nat) : Nat :=
  if exponent ≤ 308 then
    Binary64.quotient magnitude (Binary64.nearest (Nat.pow 10 exponent) 1)
  else if magnitude = 0 then 0
  else divideByPower (Binary64.quotient magnitude greatPower) (exponent - 308)
termination_by exponent

/-- The magnitude of `significand · 10 ^ exponent`, unless it is too great. -/
def scale (significand : Nat) (exponent : Int) : Option Nat :=
  let magnitude := Binary64.nearest significand 1
  if exponent < 0 then some (divideByPower magnitude exponent.natAbs)
  else if 308 < exponent then (if magnitude = 0 then some 0 else none)
  else
    let product := Binary64.product magnitude (Binary64.nearest (Nat.pow 10 exponent.toNat) 1)
    if product = Binary64.infinite then none else some product

/-- The number read so far is complete. -/
def finish (negative : Bool) (significand : Nat) (exponent : Int) (rest : List Char) :
    Except Fault (Document × List Char) :=
  match scale significand exponent with
  | some magnitude => .ok (.float ⟨negative, magnitude⟩, rest)
  | none => .error (.before .numberOutOfRange rest)

/-- The greatest exponent that is read as a number. -/
def greatestExponent : Nat := Nat.pow 2 31 - 1

/-- The digits of an exponent: its value and what follows, or, when it is out of reach, what
follows the digit that made it so. -/
def exponentDigits (value : Nat) : List Char → (Nat × List Char) ⊕ List Char
  | [] => .inl (value, [])
  | c :: rest =>
    if c.isDigit then
      if greatestExponent < value * 10 + digitValue c then .inr rest
      else exponentDigits (value * 10 + digitValue c) rest
    else .inl (value, c :: rest)

def exponentAfterSign (negative : Bool) (significand : Nat) (exponent : Int) (down : Bool) :
    List Char → Except Fault (Document × List Char)
  | [] => .error (.before .endInValue [])
  | c :: rest =>
    if c.isDigit then
      match exponentDigits (digitValue c) rest with
      | .inl (value, more) =>
        finish negative significand (if down then exponent - value else exponent + value) more
      | .inr more =>
        if significand ≠ 0 && !down then .error (.before .numberOutOfRange more)
        else .ok (.float ⟨negative, 0⟩, more.dropWhile Char.isDigit)
    else
      .error (.atNext .badNumber (c :: rest))

/-- What follows the letter of an exponent. -/
def exponentPart (negative : Bool) (significand : Nat) (exponent : Int) :
    List Char → Except Fault (Document × List Char)
  | '+' :: rest => exponentAfterSign negative significand exponent false rest
  | '-' :: rest => exponentAfterSign negative significand exponent true rest
  | rest => exponentAfterSign negative significand exponent false rest

def exponentOrEnd (negative : Bool) (significand : Nat) (exponent : Int) :
    List Char → Except Fault (Document × List Char)
  | 'e' :: rest => exponentPart negative significand exponent rest
  | 'E' :: rest => exponentPart negative significand exponent rest
  | rest => finish negative significand exponent rest

/-- What follows the point. At least one digit has to. -/
def fractionPart (negative : Bool) (significand : Nat) (exponent : Int) (s : List Char) :
    Except Fault (Document × List Char) :=
  let (value, count, rest) := moreDigits significand 0 s
  if startsWithDigit rest then
    exponentOrEnd negative value (exponent - count) (rest.dropWhile Char.isDigit)
  else if count = 0 then
    .error (.atNext (if rest.isEmpty then .endInValue else .badNumber) rest)
  else
    exponentOrEnd negative value (exponent - count) rest

/-- What follows the whole digits of a number, of which those after `significand` were `dropped`
many. -/
def afterDigits (negative : Bool) (significand dropped : Nat) :
    List Char → Except Fault (Document × List Char)
  | '.' :: rest => fractionPart negative significand dropped rest
  | rest@('e' :: _) => exponentOrEnd negative significand dropped rest
  | rest@('E' :: _) => exponentOrEnd negative significand dropped rest
  | rest =>
    if dropped ≠ 0 then finish negative significand dropped rest
    else if !negative then .ok (.int significand, rest)
    else if 0 < significand && significand ≤ Nat.pow 2 63 then .ok (.int (-significand), rest)
    else .ok (.float ⟨true, Binary64.nearest significand 1⟩, rest)

/-- A number without its sign. A zero is not followed by another digit. -/
def unsignedNumber (negative : Bool) : List Char → Except Fault (Document × List Char)
  | [] => .error (.before .endInValue [])
  | c :: rest =>
    if c = '0' then
      if startsWithDigit rest then .error (.atNext .badNumber rest)
      else afterDigits negative 0 0 rest
    else if c.isDigit then
      let (value, _, more) := moreDigits (digitValue c) 1 rest
      let tail := more.dropWhile Char.isDigit
      let dropped := more.length - tail.length
      if dropped = 0 then afterDigits negative value 0 more
      else
        match tail with
        | '.' :: after => fractionPart negative value dropped after
        | _ => exponentOrEnd negative value dropped tail
    else
      .error (.atNext .badNumber (c :: rest))

end ProfilingSession.Document.Json
