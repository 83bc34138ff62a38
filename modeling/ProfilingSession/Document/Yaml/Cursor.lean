/-!
# A place in a YAML text

A `Cursor` is what is left of a text together with its place: the number of characters read, the
line and the column. Block structure is written by columns, so every scanning step moves a cursor
and never a bare list of characters.
-/

namespace ProfilingSession.Document.Yaml

def isBreak (c : Char) : Bool :=
  c = '\n' || c = '\r' || c = '\u0085' || c = '\u2028' || c = '\u2029'

def isBlank (c : Char) : Bool :=
  c = ' ' || c = '\t'

/-- The characters of names of anchors, handles and directives. -/
def isNameChar (c : Char) : Bool :=
  c.isAlphanum || c = '_' || c = '-'

/-- The characters a YAML text may hold. -/
def isAllowed (c : Char) : Bool :=
  let n := c.toNat
  n = 0x9 || n = 0xa || n = 0xd || (0x20 ≤ n && n ≤ 0x7e) || n = 0x85 ||
    (0xa0 ≤ n && n ≤ 0xd7ff) || (0xe000 ≤ n && n ≤ 0xfffd) || 0x10000 ≤ n

/-- What is left of a text, and the place it starts at. -/
structure Cursor where
  rest : List Char
  /-- The number of characters before. -/
  index : Nat
  line : Nat
  column : Nat

namespace Cursor

def start (text : List Char) : Cursor :=
  ⟨text, 0, 0, 0⟩

def peek? (c : Cursor) : Option Char :=
  c.rest.head?

def peekAt? (c : Cursor) (n : Nat) : Option Char :=
  c.rest[n]?

def sees (c : Cursor) (d : Char) : Bool :=
  c.peek? == some d

/-- Whether the character after the next `n` satisfies a test; the end of the text does too. -/
def endsAt (c : Cursor) (test : Char → Bool) (n : Nat) : Bool :=
  match c.peekAt? n with
  | none => true
  | some d => test d

/-- Whether a blank, a line break or the end of the text comes after the next `n` characters. -/
def spaceAt (c : Cursor) (n : Nat) : Bool :=
  c.endsAt (fun d => isBlank d || isBreak d) n

/-- Whether a line break or the end of the text comes next. -/
def atLineEnd (c : Cursor) : Bool :=
  c.endsAt isBreak 0

def skip (c : Cursor) (n : Nat) : Cursor :=
  ⟨c.rest.drop n, c.index + n, c.line, c.column + n⟩

def skipWhile (c : Cursor) (test : Char → Bool) : Cursor :=
  c.skip (c.rest.takeWhile test).length

def takeWhile (c : Cursor) (test : Char → Bool) : List Char × Cursor :=
  (c.rest.takeWhile test, c.skipWhile test)

/-- The cursor after the line break that comes next, if one does. A carriage return and a line
feed are one break. -/
def skipBreak (c : Cursor) : Cursor :=
  match c.rest with
  | '\r' :: '\n' :: rest => ⟨rest, c.index + 2, c.line + 1, 0⟩
  | d :: rest => if isBreak d then ⟨rest, c.index + 1, c.line + 1, 0⟩ else c
  | [] => c

/-- What the line break that comes next stands for in a scalar. The two separators of Unicode
stand for themselves, the other breaks for a line feed. -/
def breakText (c : Cursor) : List Char :=
  match c.rest with
  | '\u2028' :: _ => ['\u2028']
  | '\u2029' :: _ => ['\u2029']
  | d :: _ => if isBreak d then ['\n'] else []
  | [] => []

/-- The cursor after blanks and a comment, at the end of the line unless something else stands
there. -/
def skipComment (c : Cursor) : Cursor :=
  let c := c.skipWhile isBlank
  if c.sees '#' then c.skipWhile (fun d => !isBreak d) else c

/-- Whether three given characters stand at the start of a line, with a space after them. -/
def atMark (c : Cursor) (d : Char) : Bool :=
  c.column == 0 && c.rest.take 3 == [d, d, d] && c.spaceAt 3

/-- Whether a mark of a document's start or end comes next. -/
def atDocumentMark (c : Cursor) : Bool :=
  c.atMark '-' || c.atMark '.'

end Cursor

end ProfilingSession.Document.Yaml
