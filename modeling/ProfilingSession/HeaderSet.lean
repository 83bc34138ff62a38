import ProfilingSession.Generation
import ProfilingSession.Session.Status

/-!
# Headers of all analyses

`HeaderSet.generate` writes, into one directory, the header of each analysis whose selection is
there, and says so. It goes on until the first fault; what was written before it stays.
-/

namespace ProfilingSession.HeaderSet

open FileTree (Cause Path)
open Specification (Problem)

structure Request where
  directory : Path
  template : Option Path
  /-- The directory of the headers. -/
  output : Path
  deriving DecidableEq, Repr

def standardDirectory : Path := "config"

def standardOutput : Path := "target/frontends"

/-- Why not all headers were written. -/
inductive Fault where
  | badSpecification (path : Path) (problem : Problem)
  | undeclarable (problem : Problem)
  | noTemplate (path : Path) (cause : Cause)
  | noOutput (path : Path) (cause : Cause)
  | unwritable (path : Path) (cause : Cause)
  deriving DecidableEq, Repr

/-- The messages of a fault and of what caused it, outermost first. -/
def Fault.chain : Fault → List String
  | .badSpecification path problem => ("Failed to load " ++ path) :: problem.chain
  | .undeclarable problem => problem.chain
  | .noTemplate path cause => ["Failed to read " ++ path, cause.message]
  | .noOutput path cause => ["Failed to create " ++ path, cause.message]
  | .unwritable path cause => ["Failed to write " ++ path, cause.message]

def headerPath (request : Request) (profiler : Profiler) : Path :=
  Path.join request.output ("slamp_produce_" ++ profiler.name ++ ".h")

def declarations (request : Request) (catalog : Catalog) (profiler : Profiler) (tree : FileTree) :
    Except Fault (List Declaration) := do
  let path := Generation.selectionPath request.directory profiler
  let selection ← (Selection.load catalog tree path).mapError (.badSpecification path)
  (declare catalog (some selection)).mapError .undeclarable

/-- What there is after some headers: the tree, what was said, and the fault if there was one. -/
structure Progress where
  tree : FileTree
  said : Output
  fault : Option Fault

/-- Writes the header of an analysis, if its selection is there. -/
def writeOne (request : Request) (catalog : Catalog) (prelude : Option String)
    (profiler : Profiler) (progress : Progress) : Progress :=
  let tree := progress.tree
  if tree.hasNode (Generation.selectionPath request.directory profiler) then
    let path := headerPath request profiler
    let written : Except Fault (Nat × FileTree) := do
      let declarations ← declarations request catalog profiler tree
      let text := Header.render prelude declarations
      return (declarations.length, ← (tree.writeText path text).mapError (.unwritable path))
    match written with
    | .ok (count, tree) =>
      { progress with
        tree := tree
        said := progress.said ++ .line ("✓ " ++ profiler.name ++ ": " ++ toString count ++
          " declarations → " ++ path) }
    | .error fault => { progress with fault := some fault }
  else
    { progress with
      said := progress.said ++ .line ("- " ++ profiler.name ++ ": no " ++ profiler.eventsFile ++
        " (skipped)") }

/-- Writes the headers of some analyses, up to the first fault. -/
def writeEach (request : Request) (catalog : Catalog) (prelude : Option String) :
    List Profiler → Progress → Progress
  | [], progress => progress
  | profiler :: rest, progress =>
    let next := writeOne request catalog prelude profiler progress
    if next.fault.isSome then next else writeEach request catalog prelude rest next

/-- What has to be read before the first header: the catalog and the text that headers start
with. -/
def sources (request : Request) (tree : FileTree) : Except Fault (Catalog × Option String) := do
  let catalogPath := Path.join request.directory Catalog.fileName
  let catalog ← (Catalog.load tree catalogPath).mapError (.badSpecification catalogPath)
  let prelude ← request.template.mapM fun path => (tree.text path).mapError (.noTemplate path)
  return (catalog, prelude)

def generate (request : Request) (tree : FileTree) : Progress :=
  match sources request tree with
  | .error fault => ⟨tree, .empty, some fault⟩
  | .ok (catalog, prelude) =>
    match tree.makeDirectories request.output with
    | (tree, .error cause) => ⟨tree, .empty, some (.noOutput request.output cause)⟩
    | (tree, .ok ()) => writeEach request catalog prelude Profiler.all ⟨tree, .empty, none⟩

end ProfilingSession.HeaderSet
