import ProfilingSession.FileTree.Sketch
import ProfilingSession.Shell.Interpreter
import ProfilingSession.Shell.Utility

/-!
# Programs

What is run when a program is launched by a path: a program of the system, known by its place, or
a script, whose first line leads to another program that gets the path of the script among its
arguments. That program may be a script in turn, up to a limit. A name without slashes is looked
for among the programs of the system only.

`Program.find` tells what runs in the end, or why nothing does.
-/

namespace ProfilingSession.Shell

open FileTree (Cause Location Path Node)

structure Program where
  name : String
  /-- What the program is called by. -/
  called : String
  /-- The arguments before those that are given. -/
  leading : List String
  deriving DecidableEq, Repr

namespace Program

def shells : List String :=
  ["sh", "dash", "bash"]

def known : List String :=
  shells ++ ["env", "sleep", "kill"] ++ Utility.names

/-- The program of the system at a location. -/
def ofLocation? (location : Location) : Option String :=
  let named (name : String) : Option String := if known.contains name then some name else none
  match location with
  | ["bin", name] => named name
  | ["usr", "bin", name] => named name
  | _ => none

/-- The program of the system that a path leads to. The system has its programs whether or not
anything else is known of their directories. -/
def system? (files : FileTree) (path : Path) : Option String :=
  let found :=
    match files.locate path with
    | .ok location => ofLocation? location
    | .error _ => none
  let plain := !Path.endsInSlash path && (Path.route path).getLast? != some "."
  found <|> if plain then ofLocation? (Location.ofPath files.working path) else none

inductive Image where
  | system (name : String)
  | file (content : ByteArray)

def image (files : FileTree) (path : Path) : Except Cause Image := do
  FileTree.checkPath path
  match system? files path with
  | some name => return .system name
  | none =>
    match ← files.node path with
    | .file mode content =>
      if mode &&& Node.mayRunBit = 0 then .error .denied else return .file content
    | _ => .error .denied

def textOf (bytes : List UInt8) : String :=
  (String.fromUTF8? ⟨bytes.toArray⟩).getD (String.ofList (bytes.map Char.ofUInt8))

/-- How many scripts may lead to each other. -/
def mostScripts : Nat := 5

/-- What runs in the end when a path is launched with some arguments, after at most so many
scripts. The empty path of a program leads to the working directory, which cannot be run. -/
def follow (files : FileTree) : Nat → Path → List String → Except Cause Program
  | scripts, path, leading => do
    match ← image files path, scripts with
    | .system name, _ => return ⟨name, path, leading⟩
    | .file content, scripts =>
      match Interpreter.ofBytes? content.toList, scripts with
      | none, _ => .error .unknownProgram
      | some ⟨[], _⟩, _ => .error .denied
      | some interpreter, 0 => do
        let _ ← image files (textOf interpreter.path)
        .error .tooManyLinks
      | some interpreter, scripts + 1 =>
        follow files scripts (textOf interpreter.path)
          ((interpreter.option.map textOf).toList ++ path :: leading)

/-- The program that a path or a name leads to. -/
def find (files : FileTree) (path : Path) : Except Cause Program :=
  if path.toList.contains '\x00' then .error .nulInCommand
  else if path.toList.contains '/' then follow files mostScripts path []
  else if path = "" then .error .absent
  else if path = "." || path = ".." then .error .denied
  else if FileTree.longestName < path.utf8ByteSize then .error .nameTooLong
  else if known.contains path then .ok ⟨path, path, []⟩
  else .error .absent

end Program

end ProfilingSession.Shell
