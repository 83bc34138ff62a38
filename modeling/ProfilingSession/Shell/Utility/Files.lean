import ProfilingSession.FileTree.Basic
import ProfilingSession.Shell.Utility.Basic

/-!
# Utilities for files

Utilities that make, remove, move, copy and print files. They go through their operands one by one:
what fails for one of them is complained about, and the others are still done.
-/

namespace ProfilingSession.Shell.Utility

open FileTree (Cause Node Path)

def withoutSlashes (operand : Bytes) : List Char :=
  (operand.toList.reverse.dropWhile (· = '/')).reverse

def baseName (operand : Bytes) : Bytes :=
  String.ofList ((withoutSlashes operand).reverse.takeWhile (· ≠ '/')).reverse

def below (directory name : Bytes) : Bytes :=
  if directory.endsWith "/" then directory ++ name else directory ++ "/" ++ name

/-! ## Making -/

/-- The paths of the directories on the way to a path, and the path itself. -/
def waypoints (operand : Bytes) : List Bytes :=
  let cs := withoutSlashes operand
  let ends := (List.range cs.length).filter fun n => 0 < n && cs[n]? = some '/'
  (ends.map fun n => String.ofList (cs.take n)) ++ [String.ofList cs]

def makeWithParents (name : Bytes) (files : FileTree) (operand : Bytes) : Except Bytes FileTree :=
  (waypoints operand).foldlM (fun files path =>
    match files.makeDirectory (pathOf path) with
    | .ok files => .ok files
    | .error cause =>
      if files.hasDirectory (pathOf path) then .ok files
      else
        let onTheWay : Bool := path.toList ≠ withoutSlashes operand
        let cause := if cause = .present && onTheWay then .notDirectory else cause
        .error (complaint name ("cannot create directory " ++ quoted path) cause)) files

def makeDirectories (call : Call) : Result :=
  Options.reading call ['p'] fun options =>
    if options.operands.isEmpty then missing call
    else
      changeEach call.files options.operands fun files operand =>
        if options.has 'p' then makeWithParents call.name files operand
        else
          (files.makeDirectory (pathOf operand)).mapError
            (complaint call.name ("cannot create directory " ++ quoted operand))

/-- Makes files that are missing. -/
def touch (call : Call) : Result :=
  Options.reading call [] fun options =>
    if options.operands.isEmpty then missing call "file operand"
    else
      changeEach call.files options.operands fun files operand =>
        if files.hasNode (pathOf operand) then .ok files
        else
          (files.writeBytes (pathOf operand) .empty).mapError
            (complaint call.name ("cannot touch " ++ quoted operand))

/-- Makes files that pass on what is written to them. -/
def makePipes (call : Call) : Result :=
  Options.reading call [] fun options =>
    if options.operands.isEmpty then missing call
    else
      changeEach call.files options.operands fun files operand =>
        (files.makeNode (pathOf operand) (.file Node.newMode .empty)).mapError
          (complaint call.name ("cannot create fifo " ++ quoted operand))

/-! ## Removing -/

def removeAll (files : FileTree) (path : Path) : Except Cause FileTree := do
  let place ← files.place path
  match place.name? with
  | none => .error .invalid
  | some name =>
    files.checkChangeable place.parent
    return files.setEntry place.parent name none

/-- Removes files, and directories with all that is in them if that is wanted. -/
def remove (call : Call) : Result :=
  Options.reading call ['r', 'R', 'f'] fun options =>
    if options.operands.isEmpty then
      if options.has 'f' then .quiet call.files 0 else missing call
    else
      changeEach call.files options.operands fun files operand =>
        let isDirectory := (files.entry (pathOf operand)).toOption.any Node.isDirectory
        let removed :=
          if isDirectory && (options.has 'r' || options.has 'R') then
            removeAll files (pathOf operand)
          else files.removeFile (pathOf operand)
        match removed with
        | .ok files => .ok files
        | .error cause =>
          if options.has 'f' && (cause = .absent || cause = .notDirectory) then .ok files
          else .error (complaint call.name ("cannot remove " ++ quoted operand) cause)

def removeDirectories (call : Call) : Result :=
  Options.reading call [] fun options =>
    if options.operands.isEmpty then missing call
    else
      changeEach call.files options.operands fun files operand =>
        (files.removeDirectory (pathOf operand)).mapError
          (complaint call.name ("failed to remove " ++ quoted operand))

/-! ## Moving, copying and linking -/

/-- Where something goes: into a directory under its own name. -/
def goal (files : FileTree) (source destination : Bytes) : Bytes :=
  if files.hasDirectory (pathOf destination) then below destination (baseName source)
  else destination

/-- Does something for all operands but the last one, and that one. -/
def toLast (call : Call) (operands : List Bytes)
    (act : FileTree → Bytes → Bytes → Except Bytes FileTree) : Result :=
  match operands with
  | [] => missing call "file operand"
  | [source] => missing call ("destination file operand after " ++ quoted source)
  | source :: next :: rest =>
    let destination := rest.getLastD next
    if rest.isEmpty || call.files.hasDirectory (pathOf destination) then
      changeEach call.files (source :: next :: rest).dropLast fun files source =>
        act files source (goal files source destination)
    else
      let cause : Cause :=
        if call.files.hasNode (pathOf destination) then .notDirectory else .absent
      .failed call.files 1 (complaint call.name ("target " ++ quoted destination) cause)

def sameFile (files : FileTree) (a b : Bytes) : Bool :=
  match files.locate (pathOf a), files.locate (pathOf b) with
  | .ok x, .ok y => files.hasNode (pathOf a) && x = y
  | _, _ => false

def sameFileMessage (name a b : Bytes) : Bytes :=
  name ++ ": " ++ quoted a ++ " and " ++ quoted b ++ " are the same file\n"

/-- What is said of a move that cannot be made. -/
def moveMessage (call : Call) (files : FileTree) (source destination : Bytes) (cause : Cause) :
    Bytes :=
  let isDirectory := (files.entry (pathOf source)).toOption.any Node.isDirectory
  match cause, isDirectory with
  | .system 22, true =>
    call.name ++ ": cannot move " ++ quoted source ++ " to a subdirectory of itself, " ++
      quoted destination ++ "\n"
  | .system 20, true =>
    call.name ++ ": cannot overwrite non-directory " ++ quoted destination ++
      " with directory " ++ quoted source ++ "\n"
  | .system 21, false =>
    call.name ++ ": cannot overwrite directory " ++ quoted destination ++
      " with non-directory\n"
  | _, _ =>
    complaint call.name ("cannot move " ++ quoted source ++ " to " ++ quoted destination) cause

def move (call : Call) : Result :=
  Options.reading call ['f'] fun options =>
    toLast call options.operands fun files source destination =>
      match files.entry (pathOf source) with
      | .error cause => .error (complaint call.name ("cannot stat " ++ quoted source) cause)
      | .ok _ =>
        if sameFile files source destination then
          .error (sameFileMessage call.name source destination)
        else
          (files.move (pathOf source) (pathOf destination)).mapError
            (moveMessage call files source destination)

/-- Copies files; directories are left out. -/
def copy (call : Call) : Result :=
  Options.reading call ['f'] fun options =>
    toLast call options.operands fun files source destination =>
      if files.hasDirectory (pathOf source) then
        .error (call.name ++ ": -r not specified; omitting directory " ++ quoted source ++ "\n")
      else if sameFile files source destination then
        .error (sameFileMessage call.name source destination)
      else
        match files.bytes (pathOf source) with
        | .error cause => .error (complaint call.name ("cannot stat " ++ quoted source) cause)
        | .ok content =>
          (files.writeBytes (pathOf destination) content).mapError
            (complaint call.name ("cannot create regular file " ++ quoted destination))

/-- Makes links to files. A link that is no name of its own for what a path leads to is a copy. -/
def link (call : Call) : Result :=
  Options.reading call ['s', 'f'] fun options =>
    toLast call options.operands fun files target destination =>
      let files :=
        if options.has 'f' then (files.removeFile (pathOf destination)).toOption.getD files
        else files
      if options.has 's' then
        (files.makeLink (pathOf target) (pathOf destination)).mapError
          (complaint call.name ("failed to create symbolic link " ++ quoted destination))
      else
        match files.entry (pathOf target) with
        | .error cause => .error (complaint call.name ("failed to access " ++ quoted target) cause)
        | .ok node =>
          (files.makeNode (pathOf destination) node).mapError
            (complaint call.name ("failed to create hard link " ++ quoted destination))

/-! ## Printing -/

/-- The bytes of files one after the other; a dash stands for the input. -/
def concatenate (call : Call) : Result :=
  Options.reading call ['u'] fun options =>
    let operands := if options.operands.isEmpty then ["-"] else options.operands
    let result := forEach call.files operands fun files operand =>
      let content :=
        if operand = "-" then call.input else (files.bytes (pathOf operand)).map Bytes.ofArray
      match content with
      | .ok text => .ok (text, files)
      | .error cause => .error (complaint call.name (shown operand) cause)
    if operands.contains "-" then
      { result with taken := (call.input.toOption.map String.length).getD 0 }
    else result

end ProfilingSession.Shell.Utility
