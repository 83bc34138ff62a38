import ProfilingSession.FileTree.Basic

/-!
# Changing file trees

Writing, making, removing and moving entries. Each operation gives the changed tree or the cause
for which nothing was changed; the causes are told in the order in which the system finds them:
first whether the path leads to a directory, then what the form of its last step says, then the
length of the name, then what is there, and at last whether the directory may be changed.
-/

namespace ProfilingSession.FileTree

def setEntry (tree : FileTree) (parent : Location) (name : String) (value : Option Node) :
    FileTree :=
  { tree with root := tree.root.set value (parent ++ [name]) }

/-- The entries of a directory have to be open for changes. -/
def checkChangeable (tree : FileTree) (parent : Location) : Except Cause Unit :=
  if (tree.root.get? parent).any fun node =>
      node.permits Node.mayWriteBit && node.permits Node.mayRunBit then .ok ()
  else .error .denied

/-- The tree with something new in a directory. -/
def addEntry (tree : FileTree) (parent : Location) (name : String) (value : Node) :
    Except Cause FileTree := do
  tree.checkChangeable parent
  return tree.setEntry parent name (some value)

/-- Writes a file anew: one that is there keeps its permissions, which have to allow it. A link
says what file is meant. -/
def writeBytes (tree : FileTree) (path : Path) (content : ByteArray) : Except Cause FileTree := do
  let (parent, name) ← tree.target path
  match tree.entry? parent name with
  | none => tree.addEntry parent name (.file Node.newMode content)
  | some (.file mode _) =>
    if mode &&& Node.mayWriteBit = 0 then .error .denied
    else return tree.setEntry parent name (some (.file mode content))
  | some _ => .error .isDirectory

def writeText (tree : FileTree) (path : Path) (content : String) : Except Cause FileTree :=
  tree.writeBytes path content.toUTF8

/-- Makes a file, unless there is something already. -/
def createFile (tree : FileTree) (path : Path) (content : ByteArray) : Except Cause FileTree := do
  let place ← tree.place path
  match place.name? with
  | none => .error .present
  | some name =>
    if place.asDirectory then .error .isDirectory
    else
      checkName name
      match tree.entry? place.parent name with
      | some _ => .error .present
      | none => tree.addEntry place.parent name (.file Node.newMode content)

/-- Makes something that is no file, unless there is something already. -/
def makeNode (tree : FileTree) (path : Path) (node : Node) : Except Cause FileTree := do
  let place ← tree.place path
  match place.name? with
  | none => .error .present
  | some name =>
    checkName name
    match tree.entry? place.parent name with
    | some _ => .error .present
    | none =>
      if place.asDirectory && !node.isDirectory then .error .absent
      else tree.addEntry place.parent name node

def makeDirectory (tree : FileTree) (path : Path) : Except Cause FileTree :=
  tree.makeNode path .empty

def makeLink (tree : FileTree) (target path : Path) : Except Cause FileTree :=
  if target = "" then .error .absent else tree.makeNode path (.link target)

/-- Makes a directory unless it is there. -/
def ensureDirectory (tree : FileTree) (path : Path) : Except Cause FileTree :=
  match tree.makeDirectory path with
  | .ok changed => .ok changed
  | .error cause => if tree.hasDirectory path then .ok tree else .error cause

/-- Makes a directory after those above it that are missing, going up at most a number of steps.
Those that were made stay if a later one cannot be made. -/
def makeDirectoriesWithin (tree : FileTree) (path : Path) : Nat → FileTree × Except Cause Unit
  | 0 =>
    match tree.ensureDirectory path with
    | .ok changed => (changed, .ok ())
    | .error cause => (tree, .error cause)
  | height + 1 =>
    if path = "" then (tree, .ok ())
    else
      match tree.ensureDirectory path, Path.parent? path with
      | .ok changed, _ => (changed, .ok ())
      | .error .absent, some parent =>
        match makeDirectoriesWithin tree parent height with
        | (above, .ok ()) => above.makeDirectoriesWithin path 0
        | failed => failed
      | .error cause, _ => (tree, .error cause)

/-- Makes a directory and those above it that are missing. -/
def makeDirectories (tree : FileTree) (path : Path) : FileTree × Except Cause Unit :=
  tree.makeDirectoriesWithin path ((Path.route path).length + 1)

def removeFile (tree : FileTree) (path : Path) : Except Cause FileTree := do
  let place ← tree.place path
  match place.name? with
  | none => .error .isDirectory
  | some name =>
    checkName name
    match tree.entry? place.parent name with
    | none => .error .absent
    | some node =>
      if place.asDirectory then
        .error (if node.isDirectory then .isDirectory else .notDirectory)
      else
        tree.checkChangeable place.parent
        if node.isDirectory then .error .isDirectory
        else return tree.setEntry place.parent name none

/-- Why the directory that a path without a name leads to cannot be removed. -/
def removalFault (path : Path) : Cause :=
  match (Path.route path).getLast? with
  | none => .busy
  | some last => if last = ".." then .notEmpty else .invalid

def removeDirectory (tree : FileTree) (path : Path) : Except Cause FileTree := do
  let place ← tree.place path
  match place.name? with
  | none => .error (removalFault path)
  | some name =>
    checkName name
    match tree.entry? place.parent name with
    | none => .error .absent
    | some node =>
      tree.checkChangeable place.parent
      match node with
      | .directory _ [] => return tree.setEntry place.parent name none
      | .directory _ _ => .error .notEmpty
      | _ => .error .notDirectory

/-- Whether an entry may take the place of another one: a directory of an empty directory, anything
else of anything that is no directory. -/
def checkReplaced (source : Node) : Option Node → Except Cause Unit
  | none => .ok ()
  | some (.directory _ entries) =>
    if !source.isDirectory then .error .isDirectory
    else if entries.isEmpty then .ok ()
    else .error .notEmpty
  | some _ => if source.isDirectory then .error .notDirectory else .ok ()

/-- Moves the entry of one directory to another one. A directory is not moved below itself, and
moving something to where it is changes nothing. -/
def moveEntry (tree : FileTree) (there here : Place) (oldName newName : String) :
    Except Cause FileTree := do
  checkName oldName
  let oldLocation := there.parent ++ [oldName]
  let newLocation := here.parent ++ [newName]
  match tree.root.get? oldLocation with
  | none => .error .absent
  | some node =>
    checkName newName
    if !node.isDirectory && (there.asDirectory || here.asDirectory) then .error .notDirectory
    else if oldLocation = newLocation then return tree
    else if oldLocation.isPrefixOf newLocation then .error .invalid
    else if newLocation.isPrefixOf oldLocation then .error .notEmpty
    else
      tree.checkChangeable there.parent
      tree.checkChangeable here.parent
      checkReplaced node (tree.root.get? newLocation)
      if node.isDirectory && there.parent ≠ here.parent && !node.permits Node.mayWriteBit then
        .error .denied
      else
        return (tree.setEntry there.parent oldName none).setEntry here.parent newName (some node)

/-- Moves an entry, with all that is below it. -/
def move (tree : FileTree) (source destination : Path) : Except Cause FileTree := do
  if destination.toList.contains '\x00' then .error .nulInPath
  else
    let there ← tree.place source
    let here ← tree.place destination
    match there.name?, here.name? with
    | some oldName, some newName => tree.moveEntry there here oldName newName
    | _, _ => .error .busy

end ProfilingSession.FileTree
