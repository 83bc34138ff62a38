import ProfilingSession.HeaderSet

/-!
# Explained faults

A fault with its causes on lines of their own, indented by four columns; several causes are
numbered from zero. This is how the program that generates all headers tells its faults.
-/

namespace ProfilingSession.CommandLine

/-- The lines of a text, where all but the first one are indented. -/
def hanging (indent s : String) : String :=
  ("\n" ++ indent).intercalate (s.splitOn "\n")

/-- A number at the end of five columns. -/
def numberColumn (n : Nat) : String :=
  let digits := toString n
  String.ofList (List.replicate (5 - digits.length) ' ') ++ digits ++ ": "

/-- The causes of a fault, each after the end of a line. -/
def causeLines : List String → List String
  | [cause] => ["\n    " ++ hanging "    " cause]
  | causes =>
    causes.zipIdx.map fun entry => "\n" ++ numberColumn entry.2 ++ hanging "       " entry.1

def explanation : List String → String
  | [] => ""
  | [message] => message
  | message :: causes => message ++ "\n\nCaused by:" ++ String.join (causeLines causes)

def headerSetExitCode (progress : HeaderSet.Progress) : Nat :=
  if progress.fault.isSome then 1 else 0

/-- All that is printed when headers are generated, with the fault at the end. -/
def headerSetOutput (progress : HeaderSet.Progress) : Output :=
  match progress.fault with
  | none => progress.said
  | some fault => progress.said ++ .errorLine ("Error: " ++ explanation fault.chain)

end ProfilingSession.CommandLine
