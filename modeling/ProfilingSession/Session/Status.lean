import ProfilingSession.Session.Report

/-!
# Status lines

What is printed while sessions run: labels in green for progress and in red for failures. Where
colours are not wanted the codes for them are replaced by the code that resets a terminal.
-/

namespace ProfilingSession

/-- What was printed, to both streams. -/
structure Output where
  out : String
  err : String
  deriving DecidableEq, Repr

namespace Output

def empty : Output := ⟨"", ""⟩

def append (a b : Output) : Output :=
  ⟨a.out ++ b.out, a.err ++ b.err⟩

instance : Append Output := ⟨append⟩

def line (text : String) : Output := ⟨text ++ "\n", ""⟩

def errorLine (text : String) : Output := ⟨"", text ++ "\n"⟩

end Output

inductive Palette where
  | coloured
  | plain
  deriving DecidableEq, Repr

namespace Palette

def resetCode : String := "\x1b[m"

def green : Palette → String → String
  | .coloured, text => "\x1b[38;5;10m" ++ text ++ "\x1b[39m"
  | .plain, text => resetCode ++ text ++ resetCode

def red : Palette → String → String
  | .coloured, text => "\x1b[38;5;9m" ++ text ++ "\x1b[39m"
  | .plain, text => resetCode ++ text ++ resetCode

end Palette

namespace Status

def info (palette : Palette) (label message : String) : Output :=
  .line (palette.green label ++ ": " ++ message)

def failure (palette : Palette) (label message : String) : Output :=
  .errorLine (palette.red label ++ ": " ++ message)

/-- The short tag of a state. -/
def tag : SessionState → String
  | .succeeded => "[ OK ]"
  | .timedOut _ => "[TIME]"
  | .orderViolation => "[ORDR]"
  | .failed => "[FAIL]"

def colouredTag (palette : Palette) (state : SessionState) : String :=
  if state = .succeeded then palette.green (tag state) else palette.red (tag state)

def exitText (exit : Option Exit) : String :=
  (exit.map Exit.text).getD "not run"

/-- The run time of a report with three places. -/
def runTimeText (report : Report) : String :=
  Decimal.fixed 3 (Decimal.Binary64.scaled report.runTime.secondsMagnitude)
    Decimal.Binary64.unit ++ "s"

/-- What is printed about a session that ended. -/
def summary (palette : Palette) (report : Report) : Output :=
  let tag := colouredTag palette report.state
  (if report.isSuccess then .line (tag ++ " PROMPT finished successfully")
    else
      .errorLine (tag ++ " PROMPT " ++ report.state.text ++ " on channel " ++
        toString report.channel) ++
      .errorLine ("  consumer: " ++ exitText report.consumer) ++
      .errorLine ("  producer: " ++ exitText report.producer)) ++
  info palette "Run time" (runTimeText report)

end Status

end ProfilingSession
