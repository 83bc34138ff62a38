import ProfilingSession.FileTree.Basic
import ProfilingSession.Selection

/-!
# Specifications in files

A specification in a file has the format that the extension of its path says.
-/

namespace ProfilingSession

open FileTree (Path)
open Specification (Problem)

def Specification.load (tree : FileTree) (path : Path) : Except Problem Document := do
  let format ← formatOf path
  parse format (← (tree.text path).mapError (.unreadable path))

def Catalog.load (tree : FileTree) (path : Path) : Except Problem Catalog := do
  ofDocument (← Specification.load tree path)

def Selection.load (catalog : Catalog) (tree : FileTree) (path : Path) :
    Except Problem Selection := do
  ofDocument catalog (← Specification.load tree path)

end ProfilingSession
