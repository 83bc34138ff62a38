import ProfilingSession.Document.Yaml.Lexer
import ProfilingSession.Document.Yaml.Resolve

/-!
# Reading a YAML text

`Yaml.read` puts the stages together: tokens, the tree, the document. A text without a document is
null.
-/

namespace ProfilingSession.Document.Yaml

def read (text : String) : Option Document := do
  let tokens ← tokens? text.toList
  match ← tree? tokens with
  | none => return .null
  | some tree => resolve tree

end ProfilingSession.Document.Yaml
