import ProfilingSession.Decimal.Binary64

/-!
# Documents

A document is a tree of scalars, lists and mappings, as read from a specification file. Mappings
are lists of entries in the order they were written, and reading keeps every entry, so that an
event or a parameter that is written twice can be told and refused instead of one of the two
being lost.

`firstRepeat` is the first name of a list that occurs earlier in it. `finite` is the document as it
is kept, in which numbers that are not finite are null. `rebuild` makes a document of what was
read, in which every mapping has a key only once: entries are put into their mapping one by one, and
a key that is there already is refused.
-/

namespace ProfilingSession

open Decimal (Binary64)

inductive Document where
  | null
  | bool (value : Bool)
  | int (value : Int)
  | float (value : Binary64)
  | text (value : String)
  | list (items : List Document)
  | mapping (entries : List (String × Document))
  deriving Inhabited, Repr

/-- The first name that is already among `seen` or earlier in the list. -/
def firstRepeatAfter (seen : List String) : List String → Option String
  | [] => none
  | name :: rest => if name ∈ seen then some name else firstRepeatAfter (name :: seen) rest

/-- The first name that occurs earlier in the list. -/
def firstRepeat (names : List String) : Option String :=
  firstRepeatAfter [] names

namespace Document

/-- The document of a number: one that is not finite has no written form and is null. -/
def ofNumber (x : Binary64) : Document :=
  if x.isFinite then .float x else .null

def keys (entries : List (String × Document)) : List String :=
  entries.map Prod.fst

def lookup (key : String) (entries : List (String × Document)) : Option Document :=
  (entries.find? fun entry => entry.1 == key).map Prod.snd

def get? (key : String) : Document → Option Document
  | .mapping entries => lookup key entries
  | _ => none

/-- The entries with a value put under a key: in the place of the one that is there, or last. -/
def put (key : String) (value : Document) :
    List (String × Document) → List (String × Document)
  | [] => [(key, value)]
  | entry :: rest =>
    if entry.1 = key then (key, value) :: rest else entry :: put key value rest

mutual

/-- The document with every number that is not finite made null. -/
def finite : Document → Document
  | .float x => ofNumber x
  | .list items => .list (finiteItems items)
  | .mapping entries => .mapping (finiteEntries entries)
  | scalar => scalar

def finiteItems : List Document → List Document
  | [] => []
  | item :: rest => finite item :: finiteItems rest

def finiteEntries : List (String × Document) → List (String × Document)
  | [] => []
  | (key, value) :: rest => (key, finite value) :: finiteEntries rest

end

mutual

/-- The document made anew from its parts, in reading order, or the first key that the mapping
that is being made already has; a key is compared before its value is made. -/
def rebuild : Document → Except String Document
  | .list items => do return .list (← rebuildItems items)
  | .mapping entries => do return .mapping (← rebuildEntries [] entries)
  | scalar => .ok scalar

def rebuildItems : List Document → Except String (List Document)
  | [] => .ok []
  | item :: rest => do
    let made ← rebuild item
    return made :: (← rebuildItems rest)

/-- Makes the entries of a mapping anew, after those that are made. -/
def rebuildEntries (made : List (String × Document)) :
    List (String × Document) → Except String (List (String × Document))
  | [] => .ok made
  | (key, value) :: rest =>
    if key ∈ keys made then .error key
    else do
      let value ← rebuild value
      rebuildEntries (put key value made) rest

end

end Document

end ProfilingSession
