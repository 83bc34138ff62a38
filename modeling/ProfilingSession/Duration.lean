import ProfilingSession.Decimal.Shortest

/-!
# Durations

A duration is a number of nanoseconds. Its text uses the largest unit of which it is at least one
and shows the rest as an exact decimal fraction.
-/

namespace ProfilingSession

structure Duration where
  nanoseconds : Nat
  deriving DecidableEq, Repr

namespace Duration

/-- Nanoseconds in a second. -/
abbrev perSecond : Nat := 1000000000

def ofParts (seconds nanoseconds : Nat) : Duration :=
  ⟨seconds * perSecond + nanoseconds⟩

def ofMilliseconds (n : Nat) : Duration :=
  ⟨n * 1000000⟩

def ofSeconds (n : Nat) : Duration :=
  ⟨n * perSecond⟩

def seconds (d : Duration) : Nat :=
  d.nanoseconds / perSecond

/-- The nanoseconds besides the whole seconds. -/
def subseconds (d : Duration) : Nat :=
  d.nanoseconds % perSecond

/-- A number of units with the rest as an exact fraction, where `places` digits make one unit. -/
def inUnits (n places : Nat) (unit : String) : String :=
  let power := Nat.pow 10 places
  let fraction := (Decimal.padded places (n % power)).toList.reverse.dropWhile (· = '0')
  let fraction := if n % power = 0 then [] else '.' :: fraction.reverse
  toString (n / power) ++ String.ofList fraction ++ unit

def text (d : Duration) : String :=
  let n := d.nanoseconds
  if perSecond ≤ n then inUnits n 9 "s"
  else if 1000000 ≤ n then inUnits n 6 "ms"
  else if 1000 ≤ n then inUnits n 3 "µs"
  else inUnits n 0 "ns"

/-- The magnitude of the duration in seconds as a binary64: the whole seconds and the rest are
rounded on their own and then added. -/
def secondsMagnitude (d : Duration) : Nat :=
  let whole := Decimal.Binary64.nearest d.seconds 1
  let rest := Decimal.Binary64.quotient (Decimal.Binary64.nearest d.subseconds 1)
    (Decimal.Binary64.nearest perSecond 1)
  Decimal.Binary64.sum whole rest

end Duration

end ProfilingSession
