/-!
# Faults of a JSON text

What can be wrong with a JSON text, and where. A place is kept as the number of bytes that were
not yet read, which a reader that walks through the text knows at no cost; `Fault.message` turns
it into the line and the column, both in bytes.
-/

namespace ProfilingSession.Document.Json

inductive Problem where
  | endInValue
  | endInText
  | endInList
  | endInObject
  | valueExpected
  | wordExpected
  | colonExpected
  | listEndExpected
  | objectEndExpected
  | keyNotText
  | trailingComma
  | trailingCharacters
  | badNumber
  | numberOutOfRange
  | badEscape
  | endInEscape
  | loneSurrogate
  | controlCharacter
  | tooDeep
  deriving DecidableEq, Repr

def Problem.message : Problem → String
  | .endInValue => "EOF while parsing a value"
  | .endInText => "EOF while parsing a string"
  | .endInList => "EOF while parsing a list"
  | .endInObject => "EOF while parsing an object"
  | .valueExpected => "expected value"
  | .wordExpected => "expected ident"
  | .colonExpected => "expected `:`"
  | .listEndExpected => "expected `,` or `]`"
  | .objectEndExpected => "expected `,` or `\x7d`"
  | .keyNotText => "key must be a string"
  | .trailingComma => "trailing comma"
  | .trailingCharacters => "trailing characters"
  | .badNumber => "invalid number"
  | .numberOutOfRange => "number out of range"
  | .badEscape => "invalid escape"
  | .endInEscape => "unexpected end of hex escape"
  | .loneSurrogate => "lone leading surrogate in hex escape"
  | .controlCharacter => "control character (\\u0000-\\u001F) found while parsing a string"
  | .tooDeep => "recursion limit exceeded"

def byteCount (s : List Char) : Nat :=
  (s.map fun c => c.utf8Size).foldr (· + ·) 0

structure Fault where
  problem : Problem
  /-- How many bytes of the text come after the place. -/
  remaining : Nat
  deriving DecidableEq, Repr

/-- A problem with what was just read: its place is before `rest`. -/
def Fault.before (problem : Problem) (rest : List Char) : Fault :=
  ⟨problem, byteCount rest⟩

/-- A problem with the first byte of `rest`: its place is after that byte, or at the end of the
text. -/
def Fault.atNext (problem : Problem) (rest : List Char) : Fault :=
  ⟨problem, byteCount rest - 1⟩

/-- The line and the column after `count` bytes. Lines count from one, columns are the bytes
since the last line feed. -/
def placeAfter (line column : Nat) : (count : Nat) → List Char → Nat × Nat
  | 0, _ => (line, column)
  | count, [] => (line, column + count)
  | count + 1, c :: rest =>
    if c = '\n' then placeAfter (line + 1) 0 count rest
    else if count + 1 ≤ c.utf8Size then (line, column + count + 1)
    else placeAfter line (column + c.utf8Size) (count + 1 - c.utf8Size) rest

def Fault.message (text : List Char) (fault : Fault) : String :=
  let place := placeAfter 1 0 (byteCount text - fault.remaining) text
  fault.problem.message ++ " at line " ++ toString place.1 ++ " column " ++ toString place.2

end ProfilingSession.Document.Json
