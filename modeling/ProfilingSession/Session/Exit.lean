/-!
# How a process ended

A process ends with an exit code of its own or is killed by a signal; either may be unknown.
-/

namespace ProfilingSession

structure Exit where
  code : Option Int
  signal : Option Int
  deriving DecidableEq, Repr

namespace Exit

def unknown : Exit := ⟨none, none⟩

def ofCode (code : Nat) : Exit := ⟨some code, none⟩

def ofSignal (signal : Nat) : Exit := ⟨none, some signal⟩

/-- What the status word of a process says: the lowest seven bits are the signal, or zero if the
process ended by itself with the code in the next byte, or all set if it did not end. -/
def ofStatus (status : Int) : Exit :=
  let low := status % 128
  if low = 0 then ⟨some (status / 256 % 256), none⟩
  else if low = 127 then unknown
  else ⟨none, some low⟩

def isSuccess (exit : Exit) : Bool :=
  exit.code == some 0

/-- The words for an end; a code counts more than a signal. -/
def text (exit : Exit) : String :=
  match exit.code, exit.signal with
  | some code, _ => "exit " ++ toString code
  | none, some signal => "signal " ++ toString signal
  | none, none => "unknown"

def jsonNumber (n : Option Int) : String :=
  match n with
  | some n => toString n
  | none => "null"

/-- The end in JSON, without white space. -/
def json (exit : Exit) : String :=
  "\x7b\"code\":" ++ jsonNumber exit.code ++ ",\"signal\":" ++ jsonNumber exit.signal ++ "\x7d"

end Exit

end ProfilingSession
