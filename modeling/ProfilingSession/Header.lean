import ProfilingSession.Declaration

/-!
# Headers

A header is a text to start with, the prelude, and a line for each declaration.
-/

namespace ProfilingSession.Header

/-- A text, ended by a line feed unless it is empty or ends in one. -/
def endLine (text : String) : String :=
  if text.isEmpty || text.toList.getLast? = some '\n' then text else text ++ "\n"

/-- The header of a list of declarations. -/
def render (prelude : Option String) (declarations : List Declaration) : String :=
  endLine (prelude.getD "") ++
    String.join (declarations.map fun declaration => declaration.line ++ "\n")

end ProfilingSession.Header
