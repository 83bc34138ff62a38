import ProfilingSession.Shell.Bytes

/-!
# Words of the shell

A word is a list of pieces: text as it stands, the value of a parameter, and the output of a script.
Pieces remember whether they were between double quotes, since what comes of a piece outside of
quotes is split into fields. `Word.read` reads the longest word that a text starts with.
-/

namespace ProfilingSession.Shell

def singleQuote : Char := Char.ofNat 39

inductive Piece where
  | text (value : Bytes) (quoted : Bool)
  | parameter (name : String) (quoted : Bool)
  /-- The output of a script that stands on a line. -/
  | output (line : Nat) (script : Bytes) (quoted : Bool)
  /-- What such a script has printed. -/
  | printed (value : Bytes) (quoted : Bool)
  deriving DecidableEq, Repr

abbrev Word := List Piece

def endsWord (c : Char) : Bool :=
  " \t\n;&|<>()".toList.contains c

def isNameChar (c : Char) : Bool :=
  c.isAlphanum || c = '_'

/-- Parameters with a name of one character that is no letter. -/
def isSpecial (c : Char) : Bool :=
  "*@#?$!".toList.contains c || c.isDigit

def isName (s : String) : Bool :=
  match s.toList with
  | [] => false
  | c :: rest => (c.isAlpha || c = '_') && rest.all isNameChar

/-- What stands before the first of a character, and what comes after it, if it is there. -/
def upTo? (mark : Char) (cs : List Char) : Option (List Char × List Char) :=
  match cs.dropWhile (· ≠ mark) with
  | [] => none
  | _ :: after => some (cs.takeWhile (· ≠ mark), after)

/-- What stands before the parenthesis that closes those that are open, and what comes after it.
Parentheses between quotes do not count. -/
def enclosed? (quote : Option Char) (depth : Nat) : List Char → Option (List Char × List Char)
  | [] => none
  | c :: rest =>
    let further (quote : Option Char) (depth : Nat) : Option (List Char × List Char) :=
      (enclosed? quote depth rest).map fun (inside, after) => (c :: inside, after)
    match quote with
    | some mark => further (if c = mark then none else quote) depth
    | none =>
      if c = ')' then if depth = 0 then some ([], rest) else further none (depth - 1)
      else if c = '(' then further none (depth + 1)
      else if c = '"' || c = singleQuote then further (some c) depth
      else further none depth

def openQuote : String := "Unterminated quoted string"

/-- Reads what follows a dollar sign; one that nothing follows stands for itself. -/
def Piece.readDollar (line : Nat) (quoted : Bool) (cs : List Char) :
    Except String (Piece × List Char) :=
  match cs with
  | '(' :: rest =>
    match enclosed? none 0 rest with
    | some (script, after) => .ok (.output line (String.ofList script) quoted, after)
    | none => .error "end of file unexpected (expecting \")\")"
  | '\x7b' :: rest =>
    match upTo? '\x7d' rest with
    | some (name, after) =>
      let name := String.ofList name
      if isName name || (name.toList.all isSpecial && name ≠ "") then
        .ok (.parameter name quoted, after)
      else .error "Bad substitution"
    | none => .error "Missing '\x7d'"
  | c :: rest =>
    if isSpecial c then .ok (.parameter (String.singleton c) quoted, rest)
    else if isNameChar c then
      .ok (.parameter (String.ofList (cs.takeWhile isNameChar)) quoted, cs.dropWhile isNameChar)
    else .ok (.text "$" true, cs)
  | [] => .ok (.text "$" true, [])

namespace Word

abbrev Reading := Except String (Word × List Char)

/-- Whether a character stands for itself whatever comes after it. -/
def isPlain (quoted : Bool) (c : Char) : Bool :=
  c ≠ '\\' && c ≠ '"' && c ≠ '$' && (quoted || (c ≠ singleQuote && !endsWord c))

/-- Reads on, between double quotes or outside of them, within a number of steps. -/
def readWithin (line : Nat) : Nat → Bool → List Char → Reading
  | 0, _, _ => .error openQuote
  | _ + 1, quoted, [] => if quoted then .error openQuote else .ok ([], [])
  | fuel + 1, quoted, c :: rest =>
    let push (piece : Piece) (after : List Char) : Reading := do
      let (word, left) ← readWithin line fuel quoted after
      return (piece :: word, left)
    if c = '\\' && rest.head? = some '\n' then readWithin line fuel quoted (rest.drop 1)
    else if c = '\\' && rest.head?.any fun d => !quoted || d = '$' || d = '"' || d = '\\' then
      push (.text (String.ofList (rest.take 1)) true) (rest.drop 1)
    else if c = '"' then
      if quoted then .ok ([], rest)
      else do
        let (inside, after) ← readWithin line fuel true rest
        let (word, left) ← readWithin line fuel false after
        return ((if inside.isEmpty then [.text "" true] else inside) ++ word, left)
    else if c = '$' then do
      let (piece, after) ← Piece.readDollar line quoted rest
      push piece after
    else if c = singleQuote && !quoted then
      match upTo? singleQuote rest with
      | some (inside, after) => push (.text (String.ofList inside) true) after
      | none => .error openQuote
    else if endsWord c && !quoted then .ok ([], c :: rest)
    else
      let more := rest.takeWhile (isPlain quoted)
      push (.text (String.ofList (c :: more)) quoted) (rest.drop more.length)

/-- Reads the longest word that a text starts with, which is on a line. -/
def read (line : Nat) (cs : List Char) : Reading :=
  readWithin line (cs.length + 1) false cs

/-- The text of a word without quotes or anything to expand. -/
def bare? : Word → Option String
  | [.text s false] => some s
  | _ => none

def literal (s : Bytes) : Word :=
  [.text s true]

/-! ## Scripts within words -/

def script? (word : Word) : Option (Nat × Bytes) :=
  word.findSome? fun
    | .output line script _ => some (line, script)
    | _ => none

def fill (printed : Bytes) : Word → Word
  | [] => []
  | .output _ _ quoted :: rest => .printed printed quoted :: rest
  | piece :: rest => piece :: fill printed rest

/-- Words with what the first script in them has printed. -/
def fillFirst (printed : Bytes) : List Word → List Word
  | [] => []
  | word :: rest =>
    if word.script?.isSome then word.fill printed :: rest else word :: fillFirst printed rest

end Word

end ProfilingSession.Shell
