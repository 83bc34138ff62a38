import ProfilingSession.FileTree.Basic
import ProfilingSession.Shell.Context
import ProfilingSession.Shell.Redirection

/-!
# Starting a shell

The words that a shell is started with say what script it runs, and what the arguments of the script
are. The script is a word, a file, or what is on the input.
-/

namespace ProfilingSession.Shell

structure Start where
  name : Bytes
  arguments : List Bytes
  /-- The script; without one it is on the input. -/
  script : Option Bytes
  stopsOnFailure : Bool

namespace Start

/-- How a shell is started on the script of a file, or what it says instead. -/
def ofFile (files : FileTree) (shell path : Bytes) (arguments : List Bytes) : Except Bytes Start :=
  match files.bytes (Bytes.toText path) with
  | .ok content => .ok ⟨path, arguments, some (Bytes.ofArray content), false⟩
  | .error cause =>
    .error (shell ++ ": 0: cannot open " ++ path ++ ": " ++ openText "No such file" cause ++ "\n")

/-- How a shell is started by its words, or what it says instead. -/
def ofWords (files : FileTree) (shell : Bytes) : List Bytes → Except Bytes Start
  | [] => .ok ⟨shell, [], none, false⟩
  | "-e" :: rest => (ofWords files shell rest).map fun start => { start with stopsOnFailure := true }
  | "-c" :: script :: rest => .ok ⟨rest.headD shell, rest.drop 1, some script, false⟩
  | "-" :: path :: rest | "--" :: path :: rest => ofFile files shell path rest
  | word :: rest =>
    if word.startsWith "-" then .error (shell ++ ": 0: Illegal option " ++ word ++ "\n")
    else ofFile files shell word rest

def context (start : Start) (pid : Nat) (environment : List (String × Bytes))
    (descriptors : Descriptors) (working : FileTree.Location) : Context where
  pid := pid
  name := start.name
  arguments := start.arguments
  bindings := environment.map fun entry => ⟨entry.1, entry.2, true⟩
  stopsOnFailure := start.stopsOnFailure
  status := 0
  substituted := none
  descriptors := descriptors
  working := working
  lastJob := none

end Start

end ProfilingSession.Shell
