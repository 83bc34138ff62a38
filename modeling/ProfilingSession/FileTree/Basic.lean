import ProfilingSession.FileTree.Cause
import ProfilingSession.FileTree.Node
import ProfilingSession.FileTree.Path

/-!
# File trees

A file tree is a directory, the root, and the location of the working directory in it, where paths
that do not start at the root start.

`locate` says where a path leads, or why nowhere: a name that is missing, a step from something
that is no directory or may not be gone through, or too many links. `place` does the same for the
directory that the last step of a path is in, for those who want to make or remove the entry
itself, and `target` for the entry that a file is written at, where the last step may be a link but
what it leads to does not have to be there. Permissions are those of an owner who is not above them.
-/

namespace ProfilingSession

/-- Files and directories from the root, and the working directory. -/
structure FileTree where
  root : FileTree.Node
  working : FileTree.Location

namespace FileTree

/-- The greatest number of bytes of a name. -/
def longestName : Nat := 255

/-- The greatest number of bytes of a path. -/
def longestPath : Nat := 4095

/-- Where the file is that takes everything and keeps nothing. -/
def nullDevice : Location := ["dev", "null"]

/-- How many links are followed on one way. -/
def mostLinks : Nat := 40

/-- A name has to be one that an entry can have. -/
def checkName (name : String) : Except Cause Unit :=
  if longestName < name.utf8ByteSize then .error .nameTooLong else .ok ()

/-- The entries of the directory at a location, which has to be open for going through. -/
def passage (root : Node) (location : Location) : Except Cause (List (String × Node)) :=
  match root.get? location with
  | some (.directory mode entries) =>
    if mode &&& Node.mayRunBit = 0 then .error .denied else .ok entries
  | some _ => .error .notDirectory
  | none => .error .absent

/-- How far steps lead before a link. -/
inductive Advance where
  | arrived (location : Location)
  /-- A link in a directory was met, with steps left after it. -/
  | met (directory : Location) (target : Path) (rest : List String)

/-- Makes steps from a location, up to a link. -/
def advance (root : Node) (location : Location) : List String → Except Cause Advance
  | [] => .ok (.arrived location)
  | name :: rest => do
    let entries ← passage root location
    if name = "." then advance root location rest
    else if name = ".." then advance root location.dropLast rest
    else
      checkName name
      match Node.lookup name entries with
      | none => .error .absent
      | some (.link target) => return .met location target rest
      | some _ => advance root (location ++ [name]) rest

def startFrom (directory : Location) (path : Path) : Location :=
  if Path.isAbsolute path then [] else directory

/-- The steps of a link, the last of which has to be a directory if the link says so. -/
def linkSteps (target : Path) : List String :=
  Path.route target ++ if Path.endsInSlash target then ["."] else []

/-- Makes steps from a location, following at most so many links. -/
def walkWithin (root : Node) : Nat → Location → List String → Except Cause Location
  | 0, location, names => do
    match ← advance root location names with
    | .arrived location => return location
    | .met .. => .error .tooManyLinks
  | links + 1, location, names => do
    match ← advance root location names with
    | .arrived location => return location
    | .met directory target rest =>
      walkWithin root links (startFrom directory target) (linkSteps target ++ rest)

def walk (root : Node) (location : Location) (names : List String) : Except Cause Location :=
  walkWithin root mostLinks location names

/-- What the system asks of every path. -/
def checkPath (path : Path) : Except Cause Unit :=
  if path.toList.contains '\x00' then .error .nulInPath
  else if path = "" then .error .absent
  else if longestPath < path.utf8ByteSize then .error .nameTooLong
  else .ok ()

def start (tree : FileTree) (path : Path) : Location :=
  startFrom tree.working path

def checkDirectory (root : Node) (location : Location) : Except Cause Unit :=
  if (root.get? location).any Node.isDirectory then .ok () else .error .notDirectory

/-- The location that a path leads to. -/
def locate (tree : FileTree) (path : Path) : Except Cause Location := do
  checkPath path
  let location ← walk tree.root (tree.start path) (Path.route path)
  if Path.endsInSlash path then checkDirectory tree.root location
  return location

def isNullDevice (tree : FileTree) (path : Path) : Bool :=
  (tree.locate path).toOption == some nullDevice

def node (tree : FileTree) (path : Path) : Except Cause Node := do
  match tree.root.get? (← tree.locate path) with
  | some node => return node
  | none => .error .absent

/-- The place of an entry in a directory. -/
structure Place where
  /-- The location of the directory. -/
  parent : Location
  /-- The name of the entry; nothing if the path ends in dots or is the root. -/
  name? : Option String
  /-- Whether the path says that the entry is a directory. -/
  asDirectory : Bool
  deriving DecidableEq, Repr

/-- The place that the last step of a path from a location is in. -/
def placeFrom (root : Node) (location : Location) (path : Path) : Except Cause Place := do
  let route := Path.route path
  let parent ← walk root location route.dropLast
  let _ ← passage root parent
  match route.getLast? with
  | none => return ⟨parent, none, true⟩
  | some name =>
    if name = "." || name = ".." then return ⟨parent, none, true⟩
    else return ⟨parent, some name, Path.endsInSlash path⟩

/-- The place that the last step of a path is in; whether the entry is there, or can be, does not
matter. -/
def place (tree : FileTree) (path : Path) : Except Cause Place := do
  checkPath path
  placeFrom tree.root (tree.start path) path

/-- How far steps lead to an entry before a link. -/
inductive Aim where
  | entry (parent : Location) (name : String)
  /-- A link was met, on the way or as the entry, and these are the steps instead. -/
  | met (location : Location) (names : List String) (slash : Bool)

/-- Makes steps from a location to the entry that the last one leads to, up to a link. A slash after
the last step says that the entry is a directory, which is nothing to write. -/
def aim (root : Node) (location : Location) (names : List String) (slash : Bool) :
    Except Cause Aim := do
  match ← advance root location names.dropLast with
  | .met directory target rest =>
    return .met (startFrom directory target) (linkSteps target ++ rest ++ names.getLast?.toList) slash
  | .arrived parent =>
    let _ ← passage root parent
    match names.getLast? with
    | none => .error .isDirectory
    | some name =>
      if name = "." || name = ".." || slash then .error .isDirectory
      else
        checkName name
        match root.get? (parent ++ [name]) with
        | some (.link target) =>
          return .met (startFrom parent target) (Path.route target) (Path.endsInSlash target)
        | _ => return .entry parent name

/-- Makes steps to an entry, following at most so many links. -/
def targetWithin (root : Node) :
    Nat → Location → List String → Bool → Except Cause (Location × String)
  | 0, location, names, slash => do
    match ← aim root location names slash with
    | .entry parent name => return (parent, name)
    | .met .. => .error .tooManyLinks
  | links + 1, location, names, slash => do
    match ← aim root location names slash with
    | .entry parent name => return (parent, name)
    | .met location names slash => targetWithin root links location names slash

/-- The directory and the name of the entry that a file is written at. -/
def target (tree : FileTree) (path : Path) : Except Cause (Location × String) := do
  checkPath path
  targetWithin tree.root mostLinks (tree.start path) (Path.route path) (Path.endsInSlash path)

def entry? (tree : FileTree) (parent : Location) (name : String) : Option Node :=
  tree.root.get? (parent ++ [name])

/-- The node at a path that may be a link. -/
def entry (tree : FileTree) (path : Path) : Except Cause Node := do
  let place ← tree.place path
  match place.name? with
  | none => tree.node path
  | some name =>
    if place.asDirectory then tree.node path
    else
      checkName name
      (tree.entry? place.parent name).elim (.error .absent) .ok

def hasNode (tree : FileTree) (path : Path) : Bool :=
  (tree.node path).isOk

def hasFile (tree : FileTree) (path : Path) : Bool :=
  match tree.node path with
  | .ok (.file ..) => true
  | _ => false

def hasDirectory (tree : FileTree) (path : Path) : Bool :=
  match tree.node path with
  | .ok node => node.isDirectory
  | _ => false

def hasLink (tree : FileTree) (path : Path) : Bool :=
  match tree.entry path with
  | .ok (.link _) => true
  | _ => false

def permits (tree : FileTree) (bit : Nat) (path : Path) : Bool :=
  match tree.node path with
  | .ok node => node.permits bit
  | .error _ => false

def bytes (tree : FileTree) (path : Path) : Except Cause ByteArray := do
  let node ← tree.node path
  if !node.permits Node.mayReadBit then .error .denied
  else
    match node with
    | .file _ content => return content
    | _ => .error .isDirectory

def text (tree : FileTree) (path : Path) : Except Cause String := do
  match String.fromUTF8? (← tree.bytes path) with
  | some text => return text
  | none => .error .notText

def names (tree : FileTree) (path : Path) : Except Cause (List String) := do
  match ← tree.node path with
  | .directory mode entries =>
    if mode &&& Node.mayReadBit = 0 then .error .denied
    else return (entries.map Prod.fst).mergeSort fun a b => a ≤ b
  | _ => .error .notDirectory

end FileTree

end ProfilingSession
