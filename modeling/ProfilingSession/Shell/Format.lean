import ProfilingSession.Shell.Bytes

/-!
# Formatted output

A format is text with escapes and directives. An escape is a backslash and what stands for a
character; a directive is a percent sign and a letter, and takes one word. A format is used again as
long as it takes words and words are left, and missing words count as empty ones.
-/

namespace ProfilingSession.Shell.Format

/-! ## Escapes -/

def escape? : Char → Option Char
  | 'a' => some '\x07'
  | 'b' => some '\x08'
  | 'f' => some '\x0c'
  | 'n' => some '\n'
  | 'r' => some '\r'
  | 't' => some '\t'
  | 'v' => some '\x0b'
  | '\\' => some '\\'
  | _ => none

def isOctal (c : Char) : Bool :=
  '0' ≤ c && c ≤ '7'

/-- What an escape stands for after its backslash, and what follows it. -/
def escaped (cs : List Char) : List Char × List Char :=
  match cs with
  | [] => (['\\'], [])
  | c :: rest =>
    if isOctal c then
      let digits := (cs.take 3).takeWhile isOctal
      let value := digits.foldl (fun n d => 8 * n + (d.toNat - '0'.toNat)) 0
      ([Char.ofNat (value % 256)], cs.drop digits.length)
    else ((escape? c).elim ['\\', c] ([·]), rest)

/-- Text with its escapes replaced, within a number of steps, and whether more may follow: nothing
does after `\c`. Octal digits may have one more zero in front. -/
def unescapedWithin : Nat → List Char → List Char × Bool
  | 0, _ => ([], true)
  | _ + 1, [] => ([], true)
  | _ + 1, '\\' :: 'c' :: _ => ([], false)
  | fuel + 1, '\\' :: rest =>
    let hasZero := rest.head? = some '0' && (rest.drop 1).head?.any isOctal
    let (first, after) := escaped (if hasZero then rest.drop 1 else rest)
    (unescapedWithin fuel after).map (first ++ ·) id
  | fuel + 1, c :: rest => (unescapedWithin fuel rest).map (c :: ·) id

/-- The words on a line with their escapes replaced, without the end of the line if the first one
says so. -/
def echo (words : List Bytes) : Bytes :=
  let (words, ending) : List Bytes × Bytes :=
    match words with
    | "-n" :: rest => (rest, "")
    | _ => (words, "\n")
  let line := " ".intercalate words
  let (text, goesOn) := unescapedWithin line.length.succ line.toList
  String.ofList text ++ if goesOn then ending else ""

/-! ## Directives -/

def shown? (letter : Char) (word : Bytes) : Option Bytes :=
  match letter with
  | 's' => some word
  | 'd' | 'i' | 'u' => some (toString ((Bytes.integer? word).getD 0))
  | _ => none

/-- The output of a format that is used once, within a number of steps, and the words that are left;
or the directive that means nothing. -/
def onceWithin : Nat → List Char → List Bytes → Except Bytes (List Char × List Bytes)
  | 0, _, words => .ok ([], words)
  | _ + 1, [], words => .ok ([], words)
  | fuel + 1, '%' :: '%' :: rest, words => do
    return (← onceWithin fuel rest words).map ('%' :: ·) id
  | fuel + 1, '%' :: letter :: rest, words =>
    match shown? letter (words.headD "") with
    | some text => do return (← onceWithin fuel rest (words.drop 1)).map (text.toList ++ ·) id
    | none => .error ("%" ++ String.singleton letter)
  | fuel + 1, '\\' :: rest, words => do
    let (first, after) := escaped rest
    return (← onceWithin fuel after words).map (first ++ ·) id
  | fuel + 1, c :: rest, words => do return (← onceWithin fuel rest words).map (c :: ·) id

/-- The output of a format that is used again while it takes words, at most so many times. -/
def againWithin (format : List Char) : Nat → List Bytes → Except Bytes (List Char)
  | 0, _ => .ok []
  | fuel + 1, words => do
    let (text, left) ← onceWithin format.length.succ format words
    if left.isEmpty || left.length = words.length then return text
    else return text ++ (← againWithin format fuel left)

def print (format : Bytes) (words : List Bytes) : Except Bytes Bytes :=
  (againWithin format.toList (words.length + 1) words).map String.ofList

end ProfilingSession.Shell.Format
