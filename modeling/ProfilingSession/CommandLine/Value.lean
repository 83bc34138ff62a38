import ProfilingSession.CommandLine.Usage
import ProfilingSession.Profiler

/-!
# Values on the command line

The kinds of values that options take, and how each is read. Numbers are decimal, with leading
zeros and a plus sign allowed; the number of threads is read as a signed number first, so that a
minus sign is allowed before zero.
-/

namespace ProfilingSession.CommandLine

inductive ValueKind where
  /-- A path, which is not empty. -/
  | path
  /-- Any text. -/
  | text
  /-- The name of an analysis. -/
  | profiler
  /-- A number of threads, below 2³². -/
  | threads
  /-- A number of seconds or milliseconds, below 2⁶⁴. -/
  | time
  deriving DecidableEq, Repr

/-- The number that some ASCII digits write; there has to be one. -/
def digits? (cs : List Char) : Option Nat :=
  if cs.isEmpty || !cs.all Char.isDigit then none
  else some (cs.foldl (fun n c => 10 * n + (c.toNat - '0'.toNat)) 0)

/-- The number of digits with an optional plus sign. -/
def unsigned? : List Char → Option Nat
  | '+' :: rest => digits? rest
  | cs => digits? cs

def readThreads (s : String) : Option Nat :=
  match s.toList with
  | '-' :: rest => (digits? rest).filter fun n => n == 0
  | cs => (unsigned? cs).filter fun n => n < Nat.pow 2 32

def readTime (s : String) : Option Nat :=
  (unsigned? s.toList).filter fun n => n < Nat.pow 2 64

/-- Whether a text is a value of a kind. -/
def ValueKind.check (kind : ValueKind) (s : String) : Except UsageFault Unit :=
  match kind with
  | .path => if s = "" then .error .missingValue else .ok ()
  | .text => .ok ()
  | .profiler => if (Profiler.ofName? s).isSome then .ok () else .error .badValue
  | .threads => if (readThreads s).isSome then .ok () else .error .badValue
  | .time => if (readTime s).isSome then .ok () else .error .badValue

end ProfilingSession.CommandLine
