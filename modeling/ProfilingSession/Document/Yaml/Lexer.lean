import ProfilingSession.Document.Yaml.Scalar
import ProfilingSession.Document.Yaml.Token

/-!
# From a YAML text to tokens

`tokens?` reads a text as a list of tokens, or gives `none` if it is no YAML text.

A mapping key is recognised only when the colon after it is met, so the lexer remembers for each
level of brackets where a key may have started (`KeyPlace`) and puts the key token in there
afterwards. Such a key lies on one line and within 1024 characters. Outside brackets the columns
of open collections are a stack, and a token at a smaller column closes what is indented more.
-/

namespace ProfilingSession.Document.Yaml

/-- Where a mapping key may have started. -/
structure KeyPlace where
  /-- Whether nothing but a key can start there, as the column is that of the open mapping. -/
  required : Bool
  /-- How many tokens come before. -/
  number : Nat
  index : Nat
  line : Nat
  column : Nat

/-- The state of the lexer. Indentations are kept plus one, so that zero stands for no open
collection. -/
structure Lexer where
  cursor : Cursor
  /-- The tokens so far, last one first. -/
  produced : List Token
  /-- One more than the column of the innermost open block collection. -/
  indent : Nat
  /-- The indentations outside of it, innermost first. -/
  outer : List Nat
  /-- Whether a mapping key may start at the next token. -/
  keyAllowed : Bool
  /-- The key place of this level of brackets. -/
  keyPlace : Option KeyPlace
  /-- The key places of the levels outside, innermost first. -/
  outerPlaces : List (Option KeyPlace)

namespace Lexer

def start (text : List Char) : Lexer :=
  ⟨Cursor.start text, [], 0, [], true, none, []⟩

def inFlow (l : Lexer) : Bool :=
  !l.outerPlaces.isEmpty

def push (l : Lexer) (token : Token) : Lexer :=
  { l with produced := token :: l.produced }

def insertAt (l : Lexer) (number : Nat) (token : Token) : Lexer :=
  let after := l.produced.length - number
  { l with produced := l.produced.take after ++ token :: l.produced.drop after }

def moveTo (l : Lexer) (c : Cursor) : Lexer :=
  { l with cursor := c }

/-- Whether a key place is too far behind: on an earlier line or more than 1024 characters. -/
def isStale (l : Lexer) (place : KeyPlace) : Bool :=
  place.line < l.cursor.line || place.index + 1024 < l.cursor.index

/-- Forgets a key place that is too far behind; one that is required makes the text wrong. -/
def freshPlace (l : Lexer) (place : Option KeyPlace) : Option (Option KeyPlace) :=
  match place with
  | some p => if l.isStale p then (if p.required then none else some none) else some (some p)
  | none => some none

/-- Forgets all key places that are too far behind. -/
def dropStale (l : Lexer) : Option Lexer := do
  let place ← l.freshPlace l.keyPlace
  let outer ← l.outerPlaces.mapM l.freshPlace
  return { l with keyPlace := place, outerPlaces := outer }

/-- Forgets the key place of this level; one that is required makes the text wrong. -/
def forgetPlace (l : Lexer) : Option Lexer :=
  if l.keyPlace.any (·.required) then none else some { l with keyPlace := none }

/-- Remembers that a key may start here. -/
def savePlace (l : Lexer) : Option Lexer :=
  if l.keyAllowed then do
    let c := l.cursor
    let required := !l.inFlow && l.indent = c.column + 1
    let l ← l.forgetPlace
    return { l with
      keyPlace := some ⟨required, l.produced.length, c.index, c.line, c.column⟩ }
  else some l

/-- Opens a block collection at a column, if it is indented more than the open one. Its token goes
after the first `number` ones. -/
def openBlock (l : Lexer) (column number : Nat) (token : Token) : Lexer :=
  if !l.inFlow && l.indent < column + 1 then
    { l.insertAt number token with indent := column + 1, outer := l.indent :: l.outer }
  else l

/-- Closes the block collections that are indented more than `limit - 1`. -/
def closeBlocks (l : Lexer) (limit : Nat) : Lexer :=
  if l.inFlow then l else go l.indent l.outer l
where
  /-- Closes collections along the stack of indentations. -/
  go (indent : Nat) (outer : List Nat) (l : Lexer) : Lexer :=
    match outer with
    | [] => { l with indent := indent, outer := [] }
    | next :: more =>
      if limit < indent then go next more (l.push .blockEnd)
      else { l with indent := indent, outer := next :: more }

/-- Goes on to the next token, over blanks, comments and line breaks. A tab is no blank where a
key may start outside brackets, and a line may start with a byte order mark, which takes up a
column like any other character. The first argument bounds the number of lines. -/
def toToken : Nat → Lexer → Lexer
  | 0, l => l
  | bound + 1, l =>
    let c := l.cursor
    let c := if c.column = 0 && c.sees '\ufeff' then c.skip 1 else c
    let tabs := l.inFlow || !l.keyAllowed
    let c := c.skipWhile fun d => d = ' ' || (tabs && d = '\t')
    let c := if c.sees '#' then c.skipWhile (fun d => !isBreak d) else c
    if c.rest.head?.any isBreak then
      toToken bound { l with cursor := c.skipBreak, keyAllowed := l.keyAllowed || !l.inFlow }
    else l.moveTo c

/-- The end of the text closes everything. -/
def finish (l : Lexer) : Option Lexer := do
  let l ← (l.closeBlocks 0).forgetPlace
  return { l with keyAllowed := false }.push .streamEnd

/-- Reads a number of a version, of at most nine digits. -/
def versionNumber (c : Cursor) : Option (Nat × Cursor) :=
  let (digits, after) := c.takeWhile Char.isDigit
  if digits.isEmpty || 9 < digits.length then none
  else some (digits.foldl (fun n d => n * 10 + (d.toNat - '0'.toNat)) 0, after)

def versionValue (c : Cursor) : Option (Token × Cursor) := do
  let (major, c) ← versionNumber (c.skipWhile isBlank)
  if !c.sees '.' then none
  let (minor, c) ← versionNumber (c.skip 1)
  return (.version major minor, c)

/-- Reads the handle of a tag: an exclamation mark, name characters and, in the long form, another
exclamation mark. -/
def tagHandle (c : Cursor) : Option (List Char × Cursor) :=
  if c.sees '!' then
    let (name, c) := (c.skip 1).takeWhile isNameChar
    if c.sees '!' then some ('!' :: name ++ ['!'], c.skip 1) else some ('!' :: name, c)
  else none

/-- The characters of a tag; the last three only where no bracket can be meant. -/
def isTagChar (verbatim : Bool) (c : Char) : Bool :=
  isNameChar c || ";/?:@&=+$.%!~*'()".toList.contains c ||
    (verbatim && (c = ',' || c = '[' || c = ']'))

/-- The length of the sequence of bytes that starts with a given one. -/
def sequenceLength? (first : Nat) : Option Nat :=
  if first < 0x80 then some 1
  else if 0xc0 ≤ first && first < 0xe0 then some 2
  else if 0xe0 ≤ first && first < 0xf0 then some 3
  else if 0xf0 ≤ first && first < 0xf8 then some 4
  else none

/-- Reads a byte that is written by its two digits. -/
def escapedByte : List Char → Option (Nat × List Char)
  | '%' :: a :: b :: rest => do return ((← hexValue? a) * 16 + (← hexValue? b), rest)
  | _ => none

/-- Reads the bytes of one character after the first of them. -/
def laterBytes : (count : Nat) → List Char → Option (List UInt8 × List Char)
  | 0, rest => some ([], rest)
  | count + 1, s => do
    let (byte, rest) ← escapedByte s
    if byte < 0x80 || 0xc0 ≤ byte then none
    let (others, rest) ← laterBytes count rest
    return (byte.toUInt8 :: others, rest)

/-- Reads the characters of a tag as bytes, undoing escapes. -/
def tagBytes (verbatim : Bool) : Nat → List Char → Option (List UInt8 × List Char)
  | 0, s => some ([], s)
  | _ + 1, [] => some ([], [])
  | bound + 1, c :: rest =>
    if !isTagChar verbatim c then some ([], c :: rest)
    else if c = '%' then do
      let (first, more) ← escapedByte (c :: rest)
      let (others, more) ← laterBytes ((← sequenceLength? first) - 1) more
      let (bytes, after) ← tagBytes verbatim bound more
      return (first.toUInt8 :: others ++ bytes, after)
    else do
      let (bytes, after) ← tagBytes verbatim bound rest
      return (c.toNat.toUInt8 :: bytes, after)

/-- Reads the characters of a tag from a cursor. -/
def tagText (verbatim : Bool) (c : Cursor) : Option (List UInt8 × Cursor) := do
  let (bytes, rest) ← tagBytes verbatim c.rest.length c.rest
  return (bytes, c.skip (c.rest.length - rest.length))

/-- The bytes of a tag as far as they count: a zero byte ends them. -/
def beforeZero (bytes : List UInt8) : List UInt8 :=
  bytes.takeWhile (· != 0)

/-- Reads a handle and what it stands for. -/
def handleValue (c : Cursor) : Option (Token × Cursor) := do
  let (handle, c) ← tagHandle (c.skipWhile isBlank)
  if handle.getLast? != some '!' then none
  if !(c.peek?.any isBlank) then none
  let (bytes, c) ← tagText true (c.skipWhile isBlank)
  if bytes.isEmpty || !c.spaceAt 0 then none
  return (.handle (String.ofList handle) (beforeZero bytes), c)

def directive (l : Lexer) : Option Lexer := do
  let l ← (l.closeBlocks 0).forgetPlace
  let (name, c) := (l.cursor.skip 1).takeWhile isNameChar
  if !c.spaceAt 0 then none
  let (token, c) ←
    if name = "YAML".toList then versionValue c
    else if name = "TAG".toList then handleValue c
    else none
  let c := c.skipComment
  if !c.atLineEnd then none
  return ({ l with keyAllowed := false }.moveTo c.skipBreak).push token

def documentMark (l : Lexer) (token : Token) : Option Lexer := do
  let l ← (l.closeBlocks 0).forgetPlace
  return ({ l with keyAllowed := false }.moveTo (l.cursor.skip 3)).push token

def openFlow (l : Lexer) (token : Token) : Option Lexer := do
  let l ← l.savePlace
  let l := { l with
    outerPlaces := l.keyPlace :: l.outerPlaces, keyPlace := none, keyAllowed := true }
  return (l.moveTo (l.cursor.skip 1)).push token

def closeFlow (l : Lexer) (token : Token) : Option Lexer := do
  let l ← l.forgetPlace
  let l := match l.outerPlaces with
    | place :: more => { l with keyPlace := place, outerPlaces := more }
    | [] => l
  return ({ l with keyAllowed := false }.moveTo (l.cursor.skip 1)).push token

def flowEntry (l : Lexer) : Option Lexer := do
  let l ← l.forgetPlace
  return ({ l with keyAllowed := true }.moveTo (l.cursor.skip 1)).push .flowEntry

/-- Reads the dash of an item. -/
def blockEntry (l : Lexer) : Option Lexer := do
  if !l.inFlow && !l.keyAllowed then none
  let l ← (l.openBlock l.cursor.column l.produced.length .sequenceStart).forgetPlace
  return ({ l with keyAllowed := true }.moveTo (l.cursor.skip 1)).push .blockEntry

/-- Reads the question mark of a key. -/
def explicitKey (l : Lexer) : Option Lexer := do
  if !l.inFlow && !l.keyAllowed then none
  let l ← (l.openBlock l.cursor.column l.produced.length .mappingStart).forgetPlace
  return ({ l with keyAllowed := !l.inFlow }.moveTo (l.cursor.skip 1)).push .key

/-- Reads the colon of a value. If a key may have started before, it has. -/
def valueMark (l : Lexer) : Option Lexer := do
  let l ← match l.keyPlace with
    | some place =>
      let l := (l.insertAt place.number .key).openBlock place.column place.number .mappingStart
      some { l with keyPlace := none, keyAllowed := false }
    | none =>
      if !l.inFlow && !l.keyAllowed then none
      else
        let l := l.openBlock l.cursor.column l.produced.length .mappingStart
        some { l with keyAllowed := !l.inFlow }
  return (l.moveTo (l.cursor.skip 1)).push .value

/-- The characters that may follow the name of an anchor directly. -/
def endsAnchor (c : Char) : Bool :=
  isBlank c || isBreak c || "?:,]\x7d%@`".toList.contains c

def anchorName (l : Lexer) (token : String → Token) : Option Lexer := do
  let l ← l.savePlace
  let (name, c) := (l.cursor.skip 1).takeWhile isNameChar
  if name.isEmpty || !c.endsAt endsAnchor 0 then none
  return ({ l with keyAllowed := false }.moveTo c).push (token (String.ofList name))

/-- The bytes of a text of ASCII characters. -/
def asciiBytes (s : List Char) : List UInt8 :=
  s.map fun c => c.toNat.toUInt8

def tagToken (c : Cursor) : Option (Token × Cursor) :=
  if c.peekAt? 1 = some '<' then do
    let (bytes, c) ← tagText true (c.skip 2)
    if bytes.isEmpty || !c.sees '>' then none
    return (.tag "" (beforeZero bytes), c.skip 1)
  else do
    let (handle, after) ← tagHandle c
    if 1 < handle.length && handle.getLast? = some '!' then
      let (bytes, c) ← tagText false after
      if bytes.isEmpty then none
      return (.tag (String.ofList handle) (beforeZero bytes), c)
    else
      let (bytes, c) ← tagText false after
      let bytes := beforeZero (asciiBytes (handle.drop 1) ++ bytes)
      if bytes.isEmpty then return (.tag "" (asciiBytes ['!']), c)
      return (.tag "!" bytes, c)

def tag (l : Lexer) : Option Lexer := do
  let l ← l.savePlace
  let (token, c) ← tagToken l.cursor
  if !(l.inFlow && c.sees ',') && !c.spaceAt 0 then none
  return ({ l with keyAllowed := false }.moveTo c).push token

def blockScalar (l : Lexer) (folded : Bool) : Option Lexer := do
  let l ← l.forgetPlace
  let (content, c) ← scanBlock folded l.indent l.cursor
  return ({ l with keyAllowed := true }.moveTo c).push (.scalar (String.ofList content) false)

def quotedScalar (l : Lexer) (single : Bool) : Option Lexer := do
  let l ← l.savePlace
  let (content, c) ← scanQuoted single l.cursor
  return ({ l with keyAllowed := false }.moveTo c).push (.scalar (String.ofList content) false)

/-- Reads a plain scalar. After one that ended with its line a key may start. -/
def plainScalar (l : Lexer) : Option Lexer := do
  let l ← l.savePlace
  let (content, broken, c) ← scanPlain l.inFlow l.indent l.cursor
  return ({ l with keyAllowed := broken }.moveTo c).push (.scalar (String.ofList content) true)

/-- The characters that a plain scalar does not start with. -/
def isIndicator (c : Char) : Bool :=
  "-?:,[]\x7b\x7d#&*!|>'\"%@`".toList.contains c

/-- Whether a plain scalar starts here. A dash starts one unless a blank follows; outside brackets
so do a question mark and a colon. -/
def startsPlain (flow : Bool) (d : Char) (c : Cursor) : Bool :=
  !(isBlank d || isBreak d || isIndicator d) ||
    (d = '-' && !(c.peekAt? 1).any isBlank) ||
    (!flow && (d = '?' || d = ':') && !c.spaceAt 1)

/-- Reads the token that starts with a given character. -/
def dispatch (l : Lexer) (d : Char) : Option Lexer :=
  let c := l.cursor
  let markFollows := l.inFlow || c.spaceAt 1
  if c.column = 0 && d = '%' then l.directive
  else if c.atMark '-' then l.documentMark .documentStart
  else if c.atMark '.' then l.documentMark .documentEnd
  else if d = '[' then l.openFlow .flowSequenceStart
  else if d = '\x7b' then l.openFlow .flowMappingStart
  else if d = ']' then l.closeFlow .flowSequenceEnd
  else if d = '\x7d' then l.closeFlow .flowMappingEnd
  else if d = ',' then l.flowEntry
  else if d = '-' && c.spaceAt 1 then l.blockEntry
  else if d = '?' && markFollows then l.explicitKey
  else if d = ':' && markFollows then l.valueMark
  else if d = '*' then l.anchorName .alias
  else if d = '&' then l.anchorName .anchor
  else if d = '!' then l.tag
  else if d = '|' && !l.inFlow then l.blockScalar false
  else if d = '>' && !l.inFlow then l.blockScalar true
  else if d = '\'' then l.quotedScalar true
  else if d = '"' then l.quotedScalar false
  else if startsPlain l.inFlow d c then l.plainScalar
  else none

/-- Reads all tokens; the first argument bounds their number, since each uses up a character. -/
def run : Nat → Lexer → Option (List Token)
  | 0, _ => none
  | bound + 1, l => do
    let l := l.toToken (l.cursor.rest.length + 1)
    let l ← l.dropStale
    let l := l.closeBlocks (l.cursor.column + 1)
    match l.cursor.peek? with
    | none => return (← l.finish).produced.reverse
    | some d => run bound (← l.dispatch d)

end Lexer

/-- The text after the byte order mark that tells its encoding, if one does. -/
def afterEncodingMark : List Char → List Char
  | '\ufeff' :: rest => rest
  | chars => chars

/-- The tokens of a YAML text. -/
def tokens? (text : List Char) : Option (List Token) :=
  if text.all isAllowed then
    let text := afterEncodingMark text
    Lexer.run (text.length + 1) (Lexer.start text)
  else none

end ProfilingSession.Document.Yaml
