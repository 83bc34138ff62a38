/-!
# Files and directories

A node is a file with its bytes and permissions, a directory with permissions and named nodes, or a
link, which stands for what a path leads to. A location is the list of names from a directory down
to a node, with directories all the way. `get?` looks at a location and `set` changes what is
there; neither makes a directory on the way or follows a link.

The entries of a directory are a list in which the first entry of a name counts, and `set` keeps
one entry for a name. `get?_set_same` and `get?_set_of_not_prefix` say what `set` does to `get?`.
-/

namespace ProfilingSession.FileTree

/-- A file, a directory or a link. -/
inductive Node where
  /-- A file: its permission bits and its bytes. -/
  | file (mode : Nat) (content : ByteArray)
  /-- A directory: its permission bits and its entries. -/
  | directory (mode : Nat) (entries : List (String × Node))
  /-- A link to what a path leads to from the directory of the link. -/
  | link (target : String)

abbrev Location := List String

namespace Node

abbrev mayReadBit : Nat := 0o400

/-- The permission bit of the owner to write a file or to change the entries of a directory. -/
abbrev mayWriteBit : Nat := 0o200

/-- The permission bit of the owner to run a file or to go through a directory. -/
abbrev mayRunBit : Nat := 0o100

abbrev newMode : Nat := 0o644

abbrev newDirectoryMode : Nat := 0o755

def empty : Node := .directory newDirectoryMode []

def mode : Node → Nat
  | .file mode _ => mode
  | .directory mode _ => mode
  | .link _ => 0o777

def permits (bit : Nat) (node : Node) : Bool :=
  node.mode &&& bit != 0

def isDirectory : Node → Bool
  | .directory .. => true
  | _ => false

def lookup (name : String) : List (String × Node) → Option Node
  | [] => none
  | (key, node) :: rest => if key = name then some node else lookup name rest

def erase (name : String) : List (String × Node) → List (String × Node)
  | [] => []
  | (key, node) :: rest => if key = name then erase name rest else (key, node) :: erase name rest

/-- The entries with a name set to a node, or without it. -/
def assign (name : String) (value : Option Node) (entries : List (String × Node)) :
    List (String × Node) :=
  match value with
  | some node => (name, node) :: erase name entries
  | none => erase name entries

def entries : Node → List (String × Node)
  | .directory _ entries => entries
  | _ => []

/-- The node with other entries, if it is a directory. -/
def withEntries (change : List (String × Node) → List (String × Node)) : Node → Node
  | .directory mode entries => .directory mode (change entries)
  | node => node

def get? (node : Node) : Location → Option Node
  | [] => some node
  | name :: rest => (lookup name node.entries).bind fun child => child.get? rest

/-- The tree with the node at a location set, or taken away. Nothing changes if the location is
empty or a directory on the way is missing. -/
def set (node : Node) (value : Option Node) : Location → Node
  | [] => node
  | [name] => node.withEntries (assign name value)
  | name :: next :: rest =>
    match lookup name node.entries with
    | some child => node.withEntries (assign name (some (child.set value (next :: rest))))
    | none => node

@[simp]
theorem lookup_erase_same (name : String) (entries : List (String × Node)) :
    lookup name (erase name entries) = none := by
  induction entries with
  | nil => rfl
  | cons entry rest ih => by_cases h : entry.1 = name <;> simp [erase, lookup, h, ih]

theorem lookup_erase_of_ne {name other : String} (h : other ≠ name)
    (entries : List (String × Node)) :
    lookup other (erase name entries) = lookup other entries := by
  induction entries with
  | nil => rfl
  | cons entry rest ih =>
    by_cases hn : entry.1 = name
    · have : name ≠ other := fun e => h e.symm
      simp [erase, lookup, hn, this, ih]
    · simp [erase, lookup, hn, ih]

/-- What was assigned to a name is found under it. -/
@[simp]
theorem lookup_assign_same (name : String) (value : Option Node)
    (entries : List (String × Node)) : lookup name (assign name value entries) = value := by
  cases value <;> simp [assign, lookup]

/-- An assignment to one name leaves the others alone. -/
theorem lookup_assign_of_ne {name other : String} (h : other ≠ name) (value : Option Node)
    (entries : List (String × Node)) :
    lookup other (assign name value entries) = lookup other entries := by
  have : name ≠ other := fun e => h e.symm
  cases value <;> simp [assign, lookup, this, lookup_erase_of_ne h]

@[simp]
theorem get?_nil (node : Node) : node.get? [] = some node := rfl

theorem get?_cons (node : Node) (name : String) (rest : Location) :
    node.get? (name :: rest) =
      (lookup name node.entries).bind fun child => child.get? rest := rfl

/-- What was set at a location is found there, if the location was in a directory. -/
theorem get?_set_same (value : Option Node) (location : Location) (name : String)
    (node : Node) {mode : Nat} {entries : List (String × Node)}
    (h : node.get? location = some (.directory mode entries)) :
    (node.set value (location ++ [name])).get? (location ++ [name]) = value := by
  induction location generalizing node with
  | nil =>
    obtain rfl : node = .directory mode entries := by simpa using h
    cases value <;> simp [set, withEntries, get?, Node.entries]
  | cons first rest ih =>
    cases node with
    | file _ _ => simp [get?, Node.entries, lookup] at h
    | link _ => simp [get?, Node.entries, lookup] at h
    | directory _ inner =>
      simp only [get?, Node.entries, Option.bind_eq_some_iff] at h
      obtain ⟨child, found, below⟩ := h
      obtain ⟨next, more, shape⟩ : ∃ next more, rest ++ [name] = next :: more := by
        cases rest <;> simp
      have deeper := ih child below
      rw [shape] at deeper
      rw [List.cons_append, shape, set, Node.entries, found, get?_cons]
      simpa [withEntries, Node.entries] using deeper

/-- What is set at a location changes nothing at a location beside it. -/
theorem get?_set_of_not_prefix (value : Option Node) (location other : Location) (node : Node)
    (above : ¬ other <+: location) (below : ¬ location <+: other) :
    (node.set value location).get? other = node.get? other := by
  induction location generalizing node other with
  | nil => exact absurd List.nil_prefix below
  | cons name rest ih =>
    cases other with
    | nil => exact absurd List.nil_prefix above
    | cons first more =>
      cases node with
      | file _ _ => cases rest <;> rfl
      | link _ => cases rest <;> rfl
      | directory _ entries =>
        by_cases same : first = name
        · subst same
          have above' : ¬ more <+: rest := fun h => above (by simpa using h)
          have below' : ¬ rest <+: more := fun h => below (by simpa using h)
          cases rest with
          | nil => exact absurd List.nil_prefix below'
          | cons next deeper =>
            cases found : lookup first entries with
            | none => simp [set, get?, Node.entries, found]
            | some child =>
              simp [set, withEntries, get?, Node.entries, found, ih more child above' below']
        · cases rest with
          | nil => simp [set, withEntries, get?, Node.entries, lookup_assign_of_ne same]
          | cons next deeper =>
            cases found : lookup name entries with
            | none => simp [set, Node.entries, found]
            | some child =>
              simp [set, withEntries, get?, Node.entries, found, lookup_assign_of_ne same]

end Node

end ProfilingSession.FileTree
