import ProfilingSession.Document.Json.Reader
import ProfilingSession.Document.Yaml.Reader

/-!
# Formats of documents

A document is written in JSON or in YAML. `Format.written` is what a text of either format says, and
`Format.read` what is kept of it, without numbers that are not finite; keys that are repeated are
still there afterwards.
-/

namespace ProfilingSession.Document

inductive Format where
  | json
  | yaml
  deriving DecidableEq, Repr

inductive TextFault where
  /-- The text is no JSON text; what is wrong and where. -/
  | json (message : String)
  /-- The text is no YAML text. -/
  | yaml
  deriving DecidableEq, Repr

/-- The document that is written in a text, with repeated keys and all numbers of the format. -/
def Format.written (format : Format) (text : String) : Except TextFault Document :=
  match format with
  | .json => (Json.read text).mapError .json
  | .yaml => (Yaml.read text).elim (.error .yaml) .ok

/-- The document that a text is kept as, with repeated keys. -/
def Format.read (format : Format) (text : String) : Except TextFault Document :=
  (format.written text).map Document.finite

/-- The format that belongs to a file name extension. -/
def Format.ofExtension? (extension : String) : Option Format :=
  if extension = "json" then some .json
  else if extension = "yaml" || extension = "yml" then some .yaml
  else none

end ProfilingSession.Document
