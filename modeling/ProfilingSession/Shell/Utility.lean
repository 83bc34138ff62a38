import ProfilingSession.Shell.Format
import ProfilingSession.Shell.Test
import ProfilingSession.Shell.Utility.Files

/-!
# Utilities

Programs that do one thing and end: they look at words, input and files, print, change files, and
have an exit code. `Utility.run` knows them by name.
-/

namespace ProfilingSession.Shell.Utility

/-- Prints words on a line as they are. -/
def echo (call : Call) : Result :=
  match call.words with
  | "-n" :: words => .printed call.files (" ".intercalate words)
  | words => .printed call.files (" ".intercalate words ++ "\n")

def printFormat (call : Call) : Result :=
  match call.words with
  | [] => missing call
  | format :: words =>
    match Format.print format words with
    | .ok text => .printed call.files text
    | .error directive =>
      .failed call.files 1 (call.name ++ ": " ++ directive ++ ": invalid conversion specification\n")

/-- Tells by the exit code whether a test holds. -/
def test (call : Call) (words : List Bytes) : Result :=
  match Test.holds? call.files words with
  | .ok holds => .quiet call.files (if holds then 0 else 1)
  | .error message => .failed call.files 2 (call.name ++ ": " ++ message ++ "\n")

def programs : List (String × (Call → Result)) :=
  [("true", fun call => .quiet call.files 0),
    ("false", fun call => .quiet call.files 1),
    ("echo", echo),
    ("printf", printFormat),
    ("test", fun call => test call call.words),
    ("[", fun call =>
      if call.words.getLast? = some "]" then test call call.words.dropLast
      else .failed call.files 2 (call.name ++ ": missing " ++ quoted "]" ++ "\n")),
    ("mkdir", makeDirectories),
    ("touch", touch),
    ("mkfifo", makePipes),
    ("rm", remove),
    ("rmdir", removeDirectories),
    ("mv", move),
    ("cp", copy),
    ("ln", link),
    ("cat", concatenate)]

def names : List String :=
  programs.map Prod.fst

def run (program : String) (call : Call) : Result :=
  ((programs.lookup program).getD fun call => .quiet call.files 0) call

end ProfilingSession.Shell.Utility
