/-!
# Tokens of a YAML text

The alphabet of the second stage of reading: scalars with their text already decoded, and the
indicators, with the block structure that columns express made explicit by start and end tokens.
A tag is kept as bytes, since the escapes in it are bytes.
-/

namespace ProfilingSession.Document.Yaml

inductive Token where
  | streamEnd
  | version (major minor : Nat)
  | handle (name : String) (bytes : List UInt8)
  | documentStart
  | documentEnd
  | sequenceStart
  | mappingStart
  | blockEnd
  | flowSequenceStart
  | flowSequenceEnd
  | flowMappingStart
  | flowMappingEnd
  | flowEntry
  | blockEntry
  | key
  | value
  | alias (name : String)
  | anchor (name : String)
  | tag (handle : String) (bytes : List UInt8)
  | scalar (text : String) (plain : Bool)
  deriving DecidableEq, Repr

end ProfilingSession.Document.Yaml
