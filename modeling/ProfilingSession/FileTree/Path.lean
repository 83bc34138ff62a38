/-!
# Paths

A path is a text of names separated by slashes. It is kept as it was written, since messages show
it so, and read as a list of steps: doubled slashes, single dots and a slash at the end make no
difference. `join` appends a path to another one unless it starts at the root.
-/

namespace ProfilingSession.FileTree

abbrev Path := String

namespace Path

def pieces (s : List Char) : List (List Char) :=
  match s with
  | [] => [[]]
  | c :: rest =>
    if c = '/' then [] :: pieces rest
    else
      match pieces rest with
      | [] => [[c]]
      | first :: more => (c :: first) :: more

def isAbsolute (p : Path) : Bool :=
  p.toList.head? == some '/'

/-- The steps of a path: its names, without empty ones and single dots. -/
def steps (p : Path) : List String :=
  ((pieces p.toList).map String.ofList).filter fun name => name != "" && name != "."

/-- The steps of a path as they are walked, where a single dot says that what comes before it is a
directory. -/
def route (p : Path) : List String :=
  ((pieces p.toList).map String.ofList).filter fun name => name != ""

def endsInSlash (p : Path) : Bool :=
  p.toList.getLast? == some '/'

/-- The name that a path ends in, if it is neither empty nor ends in two dots. -/
def fileName? (p : Path) : Option String :=
  match (steps p).getLast? with
  | some name => if name = ".." then none else some name
  | none => none

/-- The parts of a name before and after its last dot. A dot in front starts no extension. -/
def splitLastDot (name : String) : Option (String × String) :=
  let reversed := name.toList.reverse
  let after := reversed.takeWhile (· ≠ '.')
  match reversed.drop after.length with
  | _ :: before =>
    if before.isEmpty then none
    else some (String.ofList before.reverse, String.ofList after.reverse)
  | [] => none

/-- What follows the last dot of the file name. -/
def extension? (p : Path) : Option String := do
  let name ← fileName? p
  return (← splitLastDot name).2

def stem? (p : Path) : Option String := do
  let name ← fileName? p
  return match splitLastDot name with
    | some (before, _) => before
    | none => name

/-- Pieces in reverse, without those in front that say nothing; the one that is last stays. -/
def dropIdle : List (List Char) → List (List Char)
  | piece :: next :: rest =>
    if piece = [] || piece = ['.'] then dropIdle (next :: rest) else piece :: next :: rest
  | pieces => pieces

/-- The path without its last step; nothing if it has none. -/
def parent? (p : Path) : Option Path :=
  match dropIdle (pieces p.toList).reverse with
  | [] | [[]] => none
  | [_] => some ""
  | _ :: above =>
    match dropIdle above with
    | [[]] => some "/"
    | left => some ("/".intercalate (left.reverse.map String.ofList))

/-- A path below another one, unless it starts at the root. -/
def join (p q : Path) : Path :=
  if isAbsolute q || p = "" then q
  else if endsInSlash p then p ++ q
  else p ++ "/" ++ q

end Path

end ProfilingSession.FileTree
