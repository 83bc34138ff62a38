import ProfilingSession.Document.Json.Number

/-!
# Reading a JSON text

`Json.read` turns a text into a document. Every entry of an object is kept, also one whose key was
there before. Lists and objects nest at most `depthLimit - 1` deep. The readers of nested values
take a bound on the calls to come, which `read` sets above twice the length of the text: each two
nested calls use up at least one character.
-/

namespace ProfilingSession.Document.Json

/-- One more than the greatest depth of nested lists and objects. -/
def depthLimit : Nat := 128

def isSpace (c : Char) : Bool :=
  c = ' ' || c = '\t' || c = '\n' || c = '\r'

/-- The text without the white space it starts with. -/
def skipSpace (s : List Char) : List Char :=
  s.dropWhile isSpace

/-- Reads the given characters. -/
def exactly : List Char → List Char → Except Fault (List Char)
  | [], rest => .ok rest
  | _ :: _, [] => .error (.before .endInValue [])
  | c :: more, d :: rest =>
    if c = d then exactly more rest else .error (.atNext .wordExpected (d :: rest))

def hexValue? (c : Char) : Option Nat :=
  if c.isDigit then some (c.toNat - '0'.toNat)
  else if 'a' ≤ c && c ≤ 'f' then some (c.toNat - 'a'.toNat + 10)
  else if 'A' ≤ c && c ≤ 'F' then some (c.toNat - 'A'.toNat + 10)
  else none

def hexValue4? (a b c d : Char) : Option Nat := do
  let a ← hexValue? a
  let b ← hexValue? b
  let c ← hexValue? c
  let d ← hexValue? d
  return ((a * 16 + b) * 16 + c) * 16 + d

/-- Reads four bytes as the hexadecimal digits of a code unit. -/
def codeUnit (s : List Char) : Except Fault (Nat × List Char) :=
  let found := match s with
    | a :: b :: c :: d :: rest => (hexValue4? a b c d).map fun n => (n, rest)
    | _ => none
  match found with
  | some result => .ok result
  | none =>
    if byteCount s < 4 then .error ⟨.endInText, 0⟩
    else .error ⟨.badEscape, byteCount s - 4⟩

/-- Reads the character of an escape whose first code unit opens a pair of surrogates. -/
def secondSurrogate (first : Nat) : List Char → Except Fault (Char × List Char)
  | [] => .error (.before .endInText [])
  | '\\' :: 'u' :: rest => do
    let (second, more) ← codeUnit rest
    if 0xdc00 ≤ second && second ≤ 0xdfff then
      .ok (Char.ofNat (0x10000 + (first - 0xd800) * 0x400 + (second - 0xdc00)), more)
    else .error (.before .loneSurrogate more)
  | ['\\'] => .error (.before .endInText [])
  | '\\' :: rest => .error (.atNext .endInEscape rest)
  | rest => .error (.atNext .endInEscape rest)

/-- Reads the character of an escape written by its code. -/
def codeEscape (s : List Char) : Except Fault (Char × List Char) := do
  let (unit, rest) ← codeUnit s
  if 0xdc00 ≤ unit && unit ≤ 0xdfff then .error (.before .loneSurrogate rest)
  else if 0xd800 ≤ unit && unit ≤ 0xdbff then secondSurrogate unit rest
  else .ok (Char.ofNat unit, rest)

def escape : List Char → Except Fault (Char × List Char)
  | [] => .error (.before .endInText [])
  | c :: rest =>
    match c with
    | '"' => .ok ('"', rest)
    | '\\' => .ok ('\\', rest)
    | '/' => .ok ('/', rest)
    | 'b' => .ok ('\x08', rest)
    | 'f' => .ok ('\x0c', rest)
    | 'n' => .ok ('\n', rest)
    | 'r' => .ok ('\r', rest)
    | 't' => .ok ('\t', rest)
    | 'u' => codeEscape rest
    | _ => .error (.atNext .badEscape (c :: rest))

/-- Reads the characters of a quoted text up to the closing quote. -/
def textBody : (bound : Nat) → List Char → Except Fault (List Char × List Char)
  | 0, rest => .error (.before .endInText rest)
  | _ + 1, [] => .error (.before .endInText [])
  | bound + 1, c :: rest =>
    if c = '"' then .ok ([], rest)
    else if c = '\\' then do
      let (d, more) ← escape rest
      let (body, after) ← textBody bound more
      return (d :: body, after)
    else if c < ' ' then .error (.before .controlCharacter rest)
    else do
      let (body, after) ← textBody bound rest
      return (c :: body, after)

def quotedText (s : List Char) : Except Fault (String × List Char) := do
  let (body, rest) ← textBody (s.length + 1) s
  return (String.ofList body, rest)

def colon (s : List Char) : Except Fault (List Char) :=
  match skipSpace s with
  | [] => .error (.atNext .endInObject [])
  | ':' :: rest => .ok rest
  | rest => .error (.atNext .colonExpected rest)

mutual

def value (depth : Nat) : (bound : Nat) → List Char → Except Fault (Document × List Char)
  | 0, s => .error (.atNext .valueExpected s)
  | bound + 1, s =>
    match skipSpace s with
    | [] => .error (.atNext .endInValue [])
    | c :: rest =>
      match c with
      | 'n' => do return (.null, ← exactly ['u', 'l', 'l'] rest)
      | 't' => do return (.bool true, ← exactly ['r', 'u', 'e'] rest)
      | 'f' => do return (.bool false, ← exactly ['a', 'l', 's', 'e'] rest)
      | '-' => unsignedNumber true rest
      | '"' => do
        let (content, more) ← quotedText rest
        return (.text content, more)
      | '[' =>
        if depth ≤ 1 then .error (.atNext .tooDeep (c :: rest))
        else do
          let (found, more) ← items (depth - 1) bound true rest
          return (.list found, more)
      | '\x7b' =>
        if depth ≤ 1 then .error (.atNext .tooDeep (c :: rest))
        else do
          let (found, more) ← entries (depth - 1) bound true rest
          return (.mapping found, more)
      | _ =>
        if c.isDigit then unsignedNumber false (c :: rest)
        else .error (.atNext .valueExpected (c :: rest))
termination_by structural bound => bound

/-- Reads the items of a list up to the closing bracket. -/
def items (depth : Nat) :
    (bound : Nat) → (first : Bool) → List Char → Except Fault (List Document × List Char)
  | 0, _, s => .error (.atNext .endInList s)
  | bound + 1, first, s =>
    match skipSpace s with
    | [] => .error (.atNext .endInList [])
    | ']' :: rest => .ok ([], rest)
    | c :: rest =>
      if first then do
        let (item, more) ← value depth bound (c :: rest)
        let (others, after) ← items depth bound false more
        return (item :: others, after)
      else if c = ',' then
        match skipSpace rest with
        | [] => .error (.atNext .endInValue [])
        | ']' :: after => .error (.atNext .trailingComma (']' :: after))
        | following => do
          let (item, more) ← value depth bound following
          let (others, after) ← items depth bound false more
          return (item :: others, after)
      else .error (.atNext .listEndExpected (c :: rest))

/-- Reads the entries of an object up to the closing brace. -/
def entries (depth : Nat) :
    (bound : Nat) → (first : Bool) → List Char →
      Except Fault (List (String × Document) × List Char)
  | 0, _, s => .error (.atNext .endInObject s)
  | bound + 1, first, s =>
    match skipSpace s with
    | [] => .error (.atNext .endInObject [])
    | '\x7d' :: rest => .ok ([], rest)
    | c :: rest =>
      if first then
        if c = '"' then entry depth bound rest else .error (.atNext .keyNotText (c :: rest))
      else if c = ',' then
        match skipSpace rest with
        | [] => .error (.atNext .endInValue [])
        | '\x7d' :: after => .error (.atNext .trailingComma ('\x7d' :: after))
        | '"' :: after => entry depth bound after
        | following => .error (.atNext .keyNotText following)
      else .error (.atNext .objectEndExpected (c :: rest))

/-- Reads an entry whose opening quote was read, and the entries after it. -/
def entry (depth : Nat) :
    (bound : Nat) → List Char → Except Fault (List (String × Document) × List Char)
  | 0, s => .error (.atNext .endInObject s)
  | bound + 1, s => do
    let (key, afterKey) ← quotedText s
    let afterColon ← colon afterKey
    let (found, more) ← value depth bound afterColon
    let (others, after) ← entries depth bound false more
    return ((key, found) :: others, after)

end

/-- Reads a whole text, with white space around the value. -/
def readChars (s : List Char) : Except Fault Document := do
  let (found, rest) ← value depthLimit (3 * s.length + 1) s
  match skipSpace rest with
  | [] => return found
  | more => .error (.atNext .trailingCharacters more)

/-- Reads a JSON text, or says what is wrong with it and where. -/
def read (text : String) : Except String Document :=
  match readChars text.toList with
  | .ok found => .ok found
  | .error fault => .error (fault.message text.toList)

end ProfilingSession.Document.Json
