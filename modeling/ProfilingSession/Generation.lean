import ProfilingSession.FileTree.Change
import ProfilingSession.Header
import ProfilingSession.Profiler
import ProfilingSession.Session.Fault
import ProfilingSession.Specification.Stored

/-!
# Generating headers

A directory of specifications holds the catalog and, for each analysis, its selection. `generate`
writes the header of the catalog or of one analysis. Everything is read before a header is written,
so that a fault leaves the file that is there as it is.
-/

namespace ProfilingSession

open FileTree (Cause Path)
open Specification (Problem)

/-- The file, within a directory of specifications, that holds the catalog. -/
def Catalog.fileName : Path := "api.yaml"

namespace Generation

/-- What header to write. -/
structure Request where
  /-- The analysis to write it for; without one it is for the whole catalog. -/
  profiler : Option Profiler
  /-- The directory of specifications. -/
  directory : Path
  /-- The file whose text comes first. -/
  template : Option Path
  output : Path
  deriving DecidableEq, Repr

/-- The path of a header unless one is given. -/
def standardHeader : Path := "slamp_produce.h"

/-- Why no header was written. -/
inductive Fault where
  | noDirectory (directory : Path)
  | badCatalog (path : Path) (problem : Problem)
  | badSelection (profiler : Profiler) (path : Path) (problem : Problem)
  | undeclarable (problem : Problem)
  | noTemplate (path : Path) (cause : Cause)
  | unwritable (path : Path) (cause : Cause)
  deriving DecidableEq, Repr

/-- The messages of a fault and of what caused it, outermost first. -/
def Fault.chain : Fault → List String
  | .noDirectory directory => ["Config directory " ++ directory ++ " does not exist"]
  | .badCatalog path problem => ("Invalid API specification " ++ path) :: problem.chain
  | .badSelection profiler path problem =>
    ("Invalid " ++ profiler.name ++ " module specification " ++ path) :: problem.chain
  | .undeclarable problem => problem.chain
  | .noTemplate path cause => ["Template file " ++ path ++ " does not exist", cause.message]
  | .unwritable path cause => ["Failed to write " ++ path, cause.message]

def selectionPath (directory : Path) (profiler : Profiler) : Path :=
  Path.join directory profiler.eventsFile

def declarations (request : Request) (tree : FileTree) : Except Fault (List Declaration) := do
  if tree.hasDirectory request.directory then
    let catalogPath := Path.join request.directory Catalog.fileName
    let catalog ← (Catalog.load tree catalogPath).mapError (.badCatalog catalogPath)
    let selection ← request.profiler.mapM fun profiler =>
      let path := selectionPath request.directory profiler
      (Selection.load catalog tree path).mapError (.badSelection profiler path)
    (declare catalog selection).mapError .undeclarable
  else .error (.noDirectory request.directory)

/-- The text that a header starts with. -/
def preludeOf (request : Request) (tree : FileTree) : Except Fault (Option String) :=
  request.template.mapM fun path => (tree.text path).mapError (.noTemplate path)

/-- The text of the header that a request asks for, and the number of its declarations. -/
def header (request : Request) (tree : FileTree) : Except Fault (String × Nat) := do
  let declarations ← declarations request tree
  let prelude ← preludeOf request tree
  return (Header.render prelude declarations, declarations.length)

/-- Writes the header that a request asks for; gives the number of its declarations. -/
def generate (request : Request) (tree : FileTree) : Except Fault (Nat × FileTree) := do
  let (text, count) ← header request tree
  let tree ← (tree.writeText request.output text).mapError (.unwritable request.output)
  return (count, tree)

end Generation

end ProfilingSession
