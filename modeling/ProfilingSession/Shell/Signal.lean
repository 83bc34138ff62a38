import ProfilingSession.Shell.Bytes

/-!
# Signals

A signal is known by its number. What it does to a process depends on the number alone, since
scripts cannot ask for signals here.
-/

namespace ProfilingSession.Shell.Signal

/-- The names of the signals from one on. -/
def names : List String :=
  ["HUP", "INT", "QUIT", "ILL", "TRAP", "ABRT", "BUS", "FPE", "KILL", "USR1", "SEGV", "USR2", "PIPE",
    "ALRM", "TERM", "STKFLT", "CHLD", "CONT", "STOP", "TSTP", "TTIN", "TTOU", "URG", "XCPU", "XFSZ",
    "VTALRM", "PROF", "WINCH", "IO", "PWR", "SYS"]

/-- The greatest number of a signal. Signals of real time have no names here. -/
def last : Nat := 64

/-- The number of a signal by its name, in letters of either case, or as it is written. -/
def number? (s : Bytes) : Option Nat :=
  match Bytes.natural? s with
  | some n => if n ≤ last then some n else none
  | none => (names.findIdx? (· == s.toUpper)).map (· + 1)

/-- What becomes of a process that gets a signal. -/
inductive Reaction where
  | ignored
  /-- It takes no steps until it is told to go on. -/
  | stopped
  | continued
  | ended
  deriving DecidableEq, Repr

def reaction (signal : Nat) : Reaction :=
  match signal with
  | 17 | 23 | 28 => .ignored
  | 18 => .continued
  | 19 | 20 | 21 | 22 => .stopped
  | _ => .ended

end ProfilingSession.Shell.Signal
