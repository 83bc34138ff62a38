import ProfilingSession.Document
import ProfilingSession.Document.Yaml.Tree

/-!
# From the tree of a YAML text to a document

Plain scalars are resolved by their form to null, booleans, whole numbers and binary64 numbers, or
stay texts; other scalars are texts. One of the core tags forces a type. A local tag on a value is
refused, since a document has no place for it; one whose name is no text says nothing. Keys are
the texts of scalars.

Aliases are replaced by what they name. Each name is given a number when its anchor is met,
namely how many different names there were before, and an alias stands for the last node that was
given its number. Both the depth of the result and the number of aliases that are followed are
limited, so that no short text grows beyond bounds.
-/

namespace ProfilingSession.Document.Yaml

open Decimal (Binary64)

/-- The greatest depth of nested collections. -/
def depthLimit : Nat := 128

/-- How many aliases may be followed for each event of the document. -/
def aliasFactor : Nat := 100

/-! ## Numbers -/

def digitIn? (base : Nat) (c : Char) : Option Nat := do
  let n ←
    if c.isDigit then some (c.toNat - '0'.toNat)
    else if 'a' ≤ c && c ≤ 'z' then some (c.toNat - 'a'.toNat + 10)
    else if 'A' ≤ c && c ≤ 'Z' then some (c.toNat - 'A'.toNat + 10)
    else none
  if n < base then some n else none

/-- Goes on reading digits of a base to the end of the text. -/
def moreDigitsIn (base value : Nat) : List Char → Option Nat
  | [] => some value
  | c :: rest => do moreDigitsIn base (value * base + (← digitIn? base c)) rest

/-- The number written by one or more digits of a base. -/
def naturalIn? (base : Nat) (s : List Char) : Option Nat :=
  if s.isEmpty then none else moreDigitsIn base 0 s

/-- The text after a sign, if it starts with one. -/
def afterSign : List Char → List Char
  | '+' :: rest => rest
  | '-' :: rest => rest
  | s => s

/-- Digits that are no number, since a superfluous zero comes first. -/
def hasSpareZero (s : List Char) : Bool :=
  match afterSign s with
  | '0' :: c :: rest => (c :: rest).all Char.isDigit
  | _ => false

/-- The base that two leading characters stand for. -/
def baseOf? : List Char → Option (Nat × List Char)
  | '0' :: 'x' :: rest => some (16, rest)
  | '0' :: 'o' :: rest => some (8, rest)
  | '0' :: 'b' :: rest => some (2, rest)
  | _ => none

/-- The number that a text without sign stands for, in one of the four bases. -/
def unsigned? (s : List Char) : Option Nat :=
  match baseOf? s with
  | some (base, rest) => naturalIn? base rest
  | none => if hasSpareZero s then none else naturalIn? 10 s

/-- The whole number that a text stands for, if it can be written with 128 bits. -/
def integer? (s : List Char) : Option Int :=
  match s with
  | '-' :: rest => do
    let n ← unsigned? rest
    if n ≤ Nat.pow 2 127 then some (-n) else none
  | _ => do
    let n ← unsigned? (match s with
      | '+' :: rest => rest
      | _ => s)
    if n < Nat.pow 2 128 then some n else none

/-- The digits of an exponent after its letter. -/
def exponent? (s : List Char) : Option Int :=
  match s with
  | '-' :: rest => (naturalIn? 10 rest).map fun n => -(n : Int)
  | '+' :: rest => (naturalIn? 10 rest).map fun n => (n : Int)
  | _ => (naturalIn? 10 s).map fun n => (n : Int)

/-- The magnitude that a text without sign stands for as a decimal with optional point and
exponent. -/
def decimal? (s : List Char) : Option Nat := do
  let whole := s.takeWhile Char.isDigit
  let rest := s.dropWhile Char.isDigit
  let (places, rest) := match rest with
    | '.' :: more => (more.takeWhile Char.isDigit, more.dropWhile Char.isDigit)
    | _ => ([], rest)
  let digits ← naturalIn? 10 (whole ++ places)
  let exponent ← match rest with
    | [] => some 0
    | 'e' :: more => exponent? more
    | 'E' :: more => exponent? more
    | _ => none
  return Binary64.nearestDecimal digits (exponent - places.length)

def isInfinity (s : String) : Bool :=
  s = ".inf" || s = ".Inf" || s = ".INF"

/-- The binary64 that a text stands for. A finite form that is too great stands for none. -/
def float? (s : String) : Option Binary64 :=
  let chars := s.toList
  let negative := chars.head? = some '-'
  let bare := String.ofList (afterSign chars)
  if isInfinity bare then some ⟨negative, Binary64.infinite⟩
  else if s = ".nan" || s = ".NaN" || s = ".NAN" then
    some ⟨false, Binary64.infinite + Nat.pow 2 51⟩
  else do
    let magnitude ← decimal? bare.toList
    if magnitude < Binary64.infinite then some ⟨negative, magnitude⟩ else none

/-! ## Scalars -/

def isNull (s : String) : Bool :=
  s = "null" || s = "Null" || s = "NULL" || s = "~"

def bool? (s : String) : Option Bool :=
  if s = "true" || s = "True" || s = "TRUE" then some true
  else if s = "false" || s = "False" || s = "FALSE" then some false
  else none

/-- The document of a whole number; one beyond 64 bits has none. -/
def ofInteger (i : Int) : Option Document :=
  if -(Int.pow 2 63) ≤ i && i < Int.pow 2 64 then some (.int i) else none

def resolvePlain (s : String) : Option Document :=
  if s.isEmpty || isNull s then some .null
  else
    match bool? s with
    | some b => some (.bool b)
    | none =>
      match integer? s.toList with
      | some i => ofInteger i
      | none =>
        match (if hasSpareZero s.toList then none else float? s) with
        | some x => some (.float x)
        | none => some (.text s)

/-- The bytes of a core tag. -/
def coreTag (name : String) : List UInt8 :=
  ("tag:yaml.org,2002:" ++ name).toUTF8.toList

/-- Whether a tag is local: an exclamation mark and a text. -/
def isLocal (tag : List UInt8) : Bool :=
  match tag with
  | first :: rest => first == 0x21 && (String.fromUTF8? ⟨rest.toArray⟩).isSome
  | [] => false

def resolveUntagged (s : String) (plain : Bool) : Option Document :=
  if plain then resolvePlain s else some (.text s)

/-- The document of a scalar with a tag. A core tag forces a type, any other makes a text of the
scalar, and a tag that only looks like a local one counts as no tag. -/
def resolveTagged (tag : List UInt8) (s : String) (plain : Bool) : Option Document :=
  if tag = coreTag "bool" then (bool? s).map .bool
  else if tag = coreTag "int" then (integer? s.toList).bind ofInteger
  else if tag = coreTag "float" then (float? s).map .float
  else if tag = coreTag "null" then (if isNull s then some .null else none)
  else resolveUntagged s (plain && tag.head? = some 0x21)

def resolveScalar (tag : Option (List UInt8)) (s : String) (plain : Bool) : Option Document :=
  match tag with
  | some tag => resolveTagged tag s plain
  | none => resolveUntagged s plain

/-! ## Aliases -/

/-- The tree with numbers in place of names. -/
inductive Numbered where
  | scalar (slot : Option Nat) (tag : Option (List UInt8)) (text : String) (plain : Bool)
  | alias (slot : Nat)
  | sequence (slot : Option Nat) (tag : Option (List UInt8)) (items : List Numbered)
  | mapping (slot : Option Nat) (tag : Option (List UInt8))
      (entries : List (Numbered × Numbered))

instance : Inhabited Numbered := ⟨.alias 0⟩

/-- The names met so far, each with its number. -/
abbrev Names := List (String × Nat)

/-- Gives a name its number. -/
def Names.enter (names : Names) (anchor : Option String) : Names × Option Nat :=
  match anchor with
  | none => (names, none)
  | some name =>
    let number := names.length
    ((name, number) :: names.filter fun known => known.1 != name, some number)

mutual

/-- Replaces the names of a tree by numbers; an alias has to come after an anchor of its name. -/
def number (names : Names) : Tree → Option (Numbered × Names)
  | .scalar props content plain =>
    let (names, slot) := names.enter props.anchor
    some (.scalar slot props.tag content plain, names)
  | .alias name => do
    let found ← names.find? fun known => known.1 == name
    return (.alias found.2, names)
  | .sequence props items => do
    let (names, slot) := names.enter props.anchor
    let (items, names) ← numberItems names items
    return (.sequence slot props.tag items, names)
  | .mapping props entries => do
    let (names, slot) := names.enter props.anchor
    let (entries, names) ← numberEntries names entries
    return (.mapping slot props.tag entries, names)

def numberItems (names : Names) : List Tree → Option (List Numbered × Names)
  | [] => some ([], names)
  | item :: rest => do
    let (item, names) ← number names item
    let (rest, names) ← numberItems names rest
    return (item :: rest, names)

def numberEntries (names : Names) :
    List (Tree × Tree) → Option (List (Numbered × Numbered) × Names)
  | [] => some ([], names)
  | (key, value) :: rest => do
    let (key, names) ← number names key
    let (value, names) ← number names value
    let (rest, names) ← numberEntries names rest
    return ((key, value) :: rest, names)

end

mutual

/-- The number of events of a tree: one for a scalar or an alias, two for a collection besides
those of its parts. -/
def Numbered.events : Numbered → Nat
  | .scalar .. => 1
  | .alias _ => 1
  | .sequence _ _ items => 2 + eventsOfItems items
  | .mapping _ _ entries => 2 + eventsOfEntries entries

def eventsOfItems : List Numbered → Nat
  | [] => 0
  | item :: rest => item.events + eventsOfItems rest

def eventsOfEntries : List (Numbered × Numbered) → Nat
  | [] => 0
  | (key, value) :: rest => key.events + value.events + eventsOfEntries rest

end

/-- The nodes that were given a number, in reading order. -/
abbrev Slots := List (Nat × Numbered)

mutual

def Numbered.slots : Numbered → Slots
  | node@(.scalar slot ..) => (slot.map (·, node)).toList
  | .alias _ => []
  | node@(.sequence slot _ items) => (slot.map (·, node)).toList ++ slotsOfItems items
  | node@(.mapping slot _ entries) => (slot.map (·, node)).toList ++ slotsOfEntries entries

def slotsOfItems : List Numbered → Slots
  | [] => []
  | item :: rest => item.slots ++ slotsOfItems rest

def slotsOfEntries : List (Numbered × Numbered) → Slots
  | [] => []
  | (key, value) :: rest => key.slots ++ value.slots ++ slotsOfEntries rest

end

/-- A computation that may fail and counts the aliases that may still be followed. -/
abbrev Follow := StateT Nat Option

/-- Follows an alias to the node that has its number. -/
def follow (slots : Slots) (slot : Nat) : Follow Numbered := do
  let left ← get
  match left, (slots.reverse.find? fun known => known.1 == slot) with
  | left + 1, some known =>
    set left
    return known.2
  | _, _ => failure

/-- The node that a tree stands for. -/
def unalias (slots : Slots) : Numbered → Follow Numbered
  | .alias slot => follow slots slot
  | node => pure node

def keyText (slots : Slots) (key : Numbered) : Follow String := do
  match ← unalias slots key with
  | .scalar _ _ content _ => return content
  | _ => failure

/-- Applies a step to each element in turn. -/
def visitEach {α β : Type} (step : α → Follow β) : List α → Follow (List β)
  | [] => return []
  | a :: rest => do
    let b ← step a
    let others ← visitEach step rest
    return b :: others

def Numbered.tag : Numbered → Option (List UInt8)
  | .scalar _ tag _ _ => tag
  | .sequence _ tag _ => tag
  | .mapping _ tag _ => tag
  | .alias _ => none

/-- The document of a node, where `inner` gives the documents of the parts of a collection, unless
there may be no collection here. -/
def expandNode (slots : Slots) (inner : Option (Numbered → Follow Document)) (node : Numbered) :
    Follow Document := do
  let node ← unalias slots node
  if node.tag.any isLocal then failure
  match node, inner with
  | .scalar _ tag content plain, _ => (resolveScalar tag content plain).elim failure pure
  | .sequence _ _ items, some expand => return .list (← visitEach expand items)
  | .mapping _ _ entries, some expand =>
    let entries ← visitEach (fun (entry : Numbered × Numbered) => do
      let key ← keyText slots entry.1
      let value ← expand entry.2
      return (key, value)) entries
    return .mapping entries
  | _, _ => failure

/-- The document of a tree with at most `depth` nested collections. -/
def expand (slots : Slots) : (depth : Nat) → Numbered → Follow Document
  | 0 => expandNode slots none
  | depth + 1 => expandNode slots (some (expand slots depth))

/-- The document of the tree of a text. -/
def resolve (tree : Tree) : Option Document := do
  let (numbered, _) ← number [] tree
  let (found, _) ← (expand numbered.slots depthLimit numbered).run (aliasFactor * numbered.events)
  return found

end ProfilingSession.Document.Yaml
