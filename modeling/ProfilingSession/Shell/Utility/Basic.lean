import ProfilingSession.FileTree.Change
import ProfilingSession.Shell.Word

/-!
# What utilities have in common

A utility is run once with words, input and files, and leaves a `Result`: what it said, how much of
the input it took, the files, and an exit code. `Options.read` tells options and operands apart, and
`quoted` and `complaint` write the messages that all utilities have.
-/

namespace ProfilingSession.Shell

open FileTree (Cause Path)

structure Call where
  files : FileTree
  /-- All that is left of the input. -/
  input : Except Cause Bytes
  environment : List (String × Bytes)
  name : Bytes
  words : List Bytes

inductive Saying where
  | out (text : Bytes)
  | err (text : Bytes)
  deriving DecidableEq, Repr

structure Result where
  status : Nat
  /-- What was said, in order. -/
  said : List Saying
  /-- How many bytes of the input were taken. -/
  taken : Nat
  files : FileTree

namespace Result

/-- Nothing was said or changed. -/
def quiet (files : FileTree) (status : Nat) : Result :=
  ⟨status, [], 0, files⟩

def printed (files : FileTree) (out : Bytes) : Result :=
  ⟨0, [.out out], 0, files⟩

def failed (files : FileTree) (status : Nat) (err : Bytes) : Result :=
  ⟨status, [.err err], 0, files⟩

def say (result : Result) (saying : Saying) : Result :=
  { result with said := result.said ++ [saying] }

def fail (result : Result) (message : Bytes) : Result :=
  { result.say (.err message) with status := 1 }

end Result

namespace Utility

def pathOf (operand : Bytes) : Path :=
  Bytes.toText operand

/-- The words for a cause in messages of utilities. -/
def causeText : Cause → Bytes
  | .system number => FileTree.systemMessage number
  | .notText => FileTree.systemMessage 84
  | .nulInPath | .nulInCommand => FileTree.systemMessage 22

/-- A text in quotes: single ones, unless there are some in it. -/
def quoted (s : Bytes) : Bytes :=
  if s.toList.contains singleQuote then "\"" ++ s ++ "\""
  else String.singleton singleQuote ++ s ++ String.singleton singleQuote

/-- A text, in quotes if it would not be read as one word without. -/
def shown (s : Bytes) : Bytes :=
  if s = "" || s.toList.any endsWord then quoted s else s

/-- A line that says what a utility could not do. -/
def complaint (name what : Bytes) (cause : Cause) : Bytes :=
  name ++ ": " ++ what ++ ": " ++ causeText cause ++ "\n"

def misuse (name what : Bytes) : Bytes :=
  name ++ ": " ++ what ++ "\nTry " ++ quoted (name ++ " --help") ++ " for more information.\n"

/-- A call without the operands that it needs. -/
def missing (call : Call) (what : Bytes := "operand") : Result :=
  .failed call.files 1 (misuse call.name ("missing " ++ what))

/-- Does something for each operand; the exit code is one if anything failed. -/
def forEach (files : FileTree) (operands : List Bytes)
    (act : FileTree → Bytes → Except Bytes (Bytes × FileTree)) : Result :=
  operands.foldl (fun result operand =>
    match act result.files operand with
    | .ok (out, files) => { result.say (.out out) with files := files }
    | .error message => result.fail message)
    (.quiet files 0)

def changeEach (files : FileTree) (operands : List Bytes)
    (act : FileTree → Bytes → Except Bytes FileTree) : Result :=
  forEach files operands fun files operand => (act files operand).map fun files => ("", files)

end Utility

/-! ## Options -/

structure Options where
  letters : List Char
  operands : List Bytes

namespace Options

def has (options : Options) (letter : Char) : Bool :=
  options.letters.contains letter

/-- Reads words, in which options may stand anywhere unless a word says that they end; what is wrong
with them is told without the name of the utility. -/
def read (known : List Char) : List Bytes → Except Bytes Options
  | [] => .ok ⟨[], []⟩
  | word :: rest =>
    match word.toList with
    | ['-', '-'] => .ok ⟨[], rest⟩
    | '-' :: '-' :: _ => .error ("unrecognized option " ++ Utility.quoted word)
    | '-' :: c :: more =>
      match (c :: more).find? fun letter => !known.contains letter with
      | some letter => .error ("invalid option -- " ++ Utility.quoted (String.singleton letter))
      | none => (read known rest).map fun options =>
          { options with letters := c :: more ++ options.letters }
    | _ => (read known rest).map fun options =>
        { options with operands := word :: options.operands }

/-- Runs a utility on its options, or complains about them. -/
def reading (call : Call) (known : List Char) (run : Options → Result) : Result :=
  match read known call.words with
  | .ok options => run options
  | .error what => .failed call.files 1 (Utility.misuse call.name what)

end Options

end ProfilingSession.Shell
