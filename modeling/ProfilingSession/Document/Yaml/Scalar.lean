import ProfilingSession.Document.Yaml.Cursor

/-!
# Scalars of a YAML text

Scanning of plain, quoted and block scalars. Within a scalar a line break is folded: a single one
becomes a blank, of several the first is dropped. `Gap` is what stands between two runs of
characters, and `Gap.text` is the folding rule, which plain and quoted scalars share.

A scan that fails gives `none`: how a text is wrong is not told apart.
-/

namespace ProfilingSession.Document.Yaml

/-- Blanks and line breaks between two runs of characters of a scalar. -/
structure Gap where
  /-- The blanks before the first line break. -/
  blanks : List Char
  /-- What the first line break stands for, empty if it was escaped. -/
  firstBreak : List Char
  /-- What the other line breaks stand for. -/
  moreBreaks : List Char
  /-- Whether there is a line break at all. -/
  broken : Bool

/-- The gap between two characters that are neighbours. -/
def Gap.none : Gap := ⟨[], [], [], false⟩

def Gap.text (gap : Gap) : List Char :=
  if !gap.broken then gap.blanks
  else if gap.firstBreak = ['\n'] then
    (if gap.moreBreaks.isEmpty then [' '] else gap.moreBreaks)
  else gap.firstBreak ++ gap.moreBreaks

/-- Reads the blanks and line breaks that come next. After a line break a tab before the column
`tabLimit` is refused. The first argument bounds the number of characters. -/
def scanGap (tabLimit : Nat) : Nat → Gap → Cursor → Option (Gap × Cursor)
  | 0, gap, c => some (gap, c)
  | bound + 1, gap, c =>
    match c.rest with
    | [] => some (gap, c)
    | d :: _ =>
      if isBlank d then
        if gap.broken then
          if d = '\t' && c.column < tabLimit then Option.none
          else scanGap tabLimit bound gap (c.skip 1)
        else scanGap tabLimit bound { gap with blanks := gap.blanks ++ [d] } (c.skip 1)
      else if isBreak d then
        if gap.broken then
          scanGap tabLimit bound { gap with moreBreaks := gap.moreBreaks ++ c.breakText }
            c.skipBreak
        else scanGap tabLimit bound ⟨[], c.breakText, [], true⟩ c.skipBreak
      else some (gap, c)

/-- The characters that end a plain scalar inside brackets. -/
def isFlowIndicator (c : Char) : Bool :=
  c = ',' || c = '[' || c = ']' || c = '\x7b' || c = '\x7d'

/-- Reads a run of characters of a plain scalar, without blanks. Inside brackets a colon just
before an indicator is refused. -/
def plainRun (flow : Bool) : List Char → Option (List Char)
  | [] => some []
  | d :: rest =>
    if isBlank d || isBreak d then some []
    else
      let ahead := rest.head?
      if flow && d = ':' && (ahead.any fun e => isFlowIndicator e || e = '?') then Option.none
      else if d = ':' && (ahead.all fun e => isBlank e || isBreak e) then some []
      else if flow && isFlowIndicator d then some []
      else (plainRun flow rest).map (d :: ·)

/-- Reads a plain scalar: its text, whether it ended after a line break, and the cursor. It goes
on over lines that are indented to `indent` at least, or over all lines inside brackets. -/
def plainFrom (flow : Bool) (indent : Nat) :
    Nat → Gap → List Char → Cursor → Option (List Char × Bool × Cursor)
  | 0, gap, content, c => some (content, gap.broken, c)
  | bound + 1, gap, content, c => do
    if c.atDocumentMark || c.sees '#' then return (content, gap.broken, c)
    let run ← plainRun flow c.rest
    if run.isEmpty then return (content, gap.broken, c)
    let content := content ++ gap.text ++ run
    let c := c.skip run.length
    match c.peek? with
    | Option.none => return (content, false, c)
    | some d =>
      if isBlank d || isBreak d then
        let (gap, c) ← scanGap indent c.rest.length Gap.none c
        if !flow && c.column < indent then return (content, gap.broken, c)
        plainFrom flow indent bound gap content c
      else return (content, false, c)

def scanPlain (flow : Bool) (indent : Nat) (c : Cursor) : Option (List Char × Bool × Cursor) :=
  plainFrom flow indent c.rest.length Gap.none [] c

def hexValue? (c : Char) : Option Nat :=
  if c.isDigit then some (c.toNat - '0'.toNat)
  else if 'a' ≤ c && c ≤ 'f' then some (c.toNat - 'a'.toNat + 10)
  else if 'A' ≤ c && c ≤ 'F' then some (c.toNat - 'A'.toNat + 10)
  else none

/-- The number written by exactly `count` hexadecimal digits, and what follows. -/
def hexNumber? (value : Nat) : (count : Nat) → List Char → Option Nat
  | 0, _ => some value
  | _ + 1, [] => none
  | count + 1, c :: rest => do hexNumber? (value * 16 + (← hexValue? c)) count rest

/-- The character with a code, unless the code is that of a surrogate or too great. -/
def charOfCode? (n : Nat) : Option Char :=
  if h : n.isValidChar then some (Char.ofNatAux n h) else none

/-- What an escape of one letter stands for. -/
def letterEscape? (c : Char) : Option Char :=
  match c with
  | '0' => some '\x00'
  | 'a' => some '\x07'
  | 'b' => some '\x08'
  | 't' => some '\t'
  | '\t' => some '\t'
  | 'n' => some '\n'
  | 'v' => some '\x0b'
  | 'f' => some '\x0c'
  | 'r' => some '\r'
  | 'e' => some '\x1b'
  | ' ' => some ' '
  | '"' => some '"'
  | '/' => some '/'
  | '\\' => some '\\'
  | 'N' => some '\u0085'
  | '_' => some '\u00a0'
  | 'L' => some '\u2028'
  | 'P' => some '\u2029'
  | _ => none

/-- The number of digits of an escape by code. -/
def codeLength? (c : Char) : Option Nat :=
  match c with
  | 'x' => some 2
  | 'u' => some 4
  | 'U' => some 8
  | _ => none

/-- Reads what follows a backslash: the character and how many characters it takes. -/
def scanEscape : List Char → Option (Char × Nat)
  | [] => none
  | c :: rest =>
    match letterEscape? c with
    | some d => some (d, 1)
    | none => do
      let length ← codeLength? c
      let d ← charOfCode? (← hexNumber? 0 length rest)
      return (d, length + 1)

/-- A run of characters of a quoted scalar, and how it ended. -/
structure QuotedRun where
  text : List Char
  /-- Whether the run ended with a line break that is escaped. -/
  escapedBreak : Bool
  cursor : Cursor

/-- Reads a run of characters of a quoted scalar, up to a blank, a line break or the closing
quote. The characters read so far come last first. -/
def quotedRun (single : Bool) : Nat → (read : List Char) → Cursor → Option QuotedRun
  | 0, read, c => some ⟨read.reverse, false, c⟩
  | bound + 1, read, c =>
    match c.rest with
    | [] => some ⟨read.reverse, false, c⟩
    | d :: rest =>
      if isBlank d || isBreak d then some ⟨read.reverse, false, c⟩
      else if single then
        if d = '\'' then
          if rest.head? = some '\'' then quotedRun single bound ('\'' :: read) (c.skip 2)
          else some ⟨read.reverse, false, c⟩
        else quotedRun single bound (d :: read) (c.skip 1)
      else if d = '"' then some ⟨read.reverse, false, c⟩
      else if d = '\\' then
        if rest.head?.any isBreak then some ⟨read.reverse, true, (c.skip 1).skipBreak⟩
        else do
          let (e, length) ← scanEscape rest
          quotedRun single bound (e :: read) (c.skip (length + 1))
      else quotedRun single bound (d :: read) (c.skip 1)

/-- Reads a quoted scalar whose opening quote was read. A mark of a document's start or end in it
is refused. -/
def quotedFrom (single : Bool) : Nat → List Char → Cursor → Option (List Char × Cursor)
  | 0, _, _ => none
  | bound + 1, content, c => do
    if c.atDocumentMark || c.rest.isEmpty then none
    let run ← quotedRun single c.rest.length [] c
    let content := content ++ run.text
    let c := run.cursor
    if c.sees (if single then '\'' else '"') then return (content, c.skip 1)
    let (gap, c) ← scanGap 0 c.rest.length ⟨[], [], [], run.escapedBreak⟩ c
    quotedFrom single bound (content ++ gap.text) c

def scanQuoted (single : Bool) (c : Cursor) : Option (List Char × Cursor) :=
  quotedFrom single (c.rest.length + 1) [] (c.skip 1)

/-- What happens to the line breaks at the end of a block scalar. -/
inductive Chomping where
  | strip
  | clip
  | keep
  deriving DecidableEq, Repr

/-- Reads one indicator of chomping. -/
def chompingMark? (c : Cursor) : Option Chomping :=
  match c.peek? with
  | some '+' => some .keep
  | some '-' => some .strip
  | _ => none

/-- Reads one digit of indentation; a zero is refused. -/
def indentationMark? (c : Cursor) : Option (Option Nat) :=
  match c.peek? with
  | some d =>
    if d = '0' then none
    else if d.isDigit then some (some (d.toNat - '0'.toNat))
    else some none
  | none => some none

/-- Reads the indicators of a block scalar, which stand in either order. -/
def blockMarks (c : Cursor) : Option (Chomping × Option Nat × Cursor) :=
  match chompingMark? c with
  | some chomping => do
    let c := c.skip 1
    match ← indentationMark? c with
    | some increment => return (chomping, some increment, c.skip 1)
    | none => return (chomping, none, c)
  | none => do
    match ← indentationMark? c with
    | some increment =>
      let c := c.skip 1
      match chompingMark? c with
      | some chomping => return (chomping, some increment, c.skip 1)
      | none => return (.clip, some increment, c)
    | none => return (.clip, none, c)

/-- Reads the indentation and the empty lines before a line of a block scalar: the breaks, the
greatest column met and the cursor. Without a known indentation every blank is read; a tab in
place of indentation is refused. -/
def blockBreaks (indent : Nat) :
    Nat → (breaks : List Char) → (widest : Nat) → Cursor → Option (List Char × Nat × Cursor)
  | 0, breaks, widest, c => some (breaks, widest, c)
  | bound + 1, breaks, widest, c =>
    let blanks := (c.rest.takeWhile (· = ' ')).length
    let c := c.skip (if indent = 0 then blanks else min blanks (indent - c.column))
    let widest := max widest c.column
    if (indent = 0 || c.column < indent) && c.sees '\t' then none
    else if c.rest.head?.any isBreak then
      blockBreaks indent bound (breaks ++ c.breakText) widest c.skipBreak
    else some (breaks, widest, c)

/-- Reads the lines of a block scalar: its text without the last breaks, the break after the last
line and the breaks after that. -/
def blockLines (folded : Bool) (indent : Nat) :
    Nat → (content lineBreak breaks : List Char) → (leadingBlank : Bool) → Cursor →
      Option (List Char × List Char × List Char × Cursor)
  | 0, content, lineBreak, breaks, _, c => some (content, lineBreak, breaks, c)
  | bound + 1, content, lineBreak, breaks, leadingBlank, c =>
    if c.column = indent && !c.rest.isEmpty then do
      let blank := c.rest.head?.any isBlank
      let joint :=
        if folded && lineBreak = ['\n'] && !leadingBlank && !blank then
          (if breaks.isEmpty then [' '] else [])
        else lineBreak
      let (line, c) := c.takeWhile fun d => !isBreak d
      let content := content ++ joint ++ breaks ++ line
      let lineBreak := c.breakText
      let (breaks, _, c) ← blockBreaks indent (c.rest.length + 1) [] 0 c.skipBreak
      blockLines folded indent bound content lineBreak breaks blank c
    else some (content, lineBreak, breaks, c)

/-- Reads a block scalar from its indicator. `parent` is one more than the indentation of the
collection around it. -/
def scanBlock (folded : Bool) (parent : Nat) (c : Cursor) : Option (List Char × Cursor) := do
  let (chomping, increment, c) ← blockMarks (c.skip 1)
  let c := c.skipComment
  if !c.atLineEnd then none
  let c := c.skipBreak
  let given := match increment with
    | some n => (if parent = 0 then n else parent - 1 + n)
    | none => 0
  let (breaks, widest, c) ← blockBreaks given (c.rest.length + 1) [] 0 c
  let indent := if given = 0 then max widest (max parent 1) else given
  let (content, lineBreak, breaks, c) ←
    blockLines folded indent (c.rest.length + 1) [] [] breaks false c
  match chomping with
  | .strip => return (content, c)
  | .clip => return (content ++ lineBreak, c)
  | .keep => return (content ++ lineBreak ++ breaks, c)

end ProfilingSession.Document.Yaml
