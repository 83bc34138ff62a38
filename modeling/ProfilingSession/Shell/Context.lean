import ProfilingSession.FileTree.Node
import ProfilingSession.Shell.Command

/-!
# What commands depend on

A `Context` is what a shell knows while it runs commands: variables, arguments, what is behind its
descriptors, and how the last command ended. A script within a word starts with a copy, and what it
changes does not come back.

Words become fields in a context. What came from a parameter or from a script outside of quotes is
split at blanks; a field without characters stays only if there were quotes.
-/

namespace ProfilingSession.Shell

open FileTree (Location)

structure Variable where
  name : String
  value : Bytes
  /-- Whether programs find it in their environment. -/
  isExported : Bool
  deriving DecidableEq, Repr

/-- The numbers of streams by those of descriptors. -/
abbrev Descriptors := List (Nat × Nat)

namespace Descriptors

def stream? (descriptors : Descriptors) (number : Nat) : Option Nat :=
  descriptors.lookup number

def close (number : Nat) (descriptors : Descriptors) : Descriptors :=
  descriptors.filter fun entry => entry.1 != number

/-- The descriptors with a stream for one. -/
def lead (number stream : Nat) (descriptors : Descriptors) : Descriptors :=
  (number, stream) :: descriptors.close number

end Descriptors

structure Context where
  /-- The number of the process that the shell started as. -/
  pid : Nat
  /-- The name of the script. -/
  name : Bytes
  arguments : List Bytes
  bindings : List Variable
  /-- Whether the script ends when a command fails. -/
  stopsOnFailure : Bool
  /-- The exit code of the last command. -/
  status : Nat
  /-- The exit code of the last script within the words of the current command. -/
  substituted : Option Nat
  descriptors : Descriptors
  working : Location
  lastJob : Option Nat

namespace Context

def binding? (context : Context) (name : String) : Option Variable :=
  context.bindings.find? fun entry => entry.name == name

def value? (context : Context) (name : String) : Option Bytes :=
  (context.binding? name).map Variable.value

def forget (name : String) (context : Context) : Context :=
  { context with bindings := context.bindings.filter fun entry => entry.name != name }

def put (entry : Variable) (context : Context) : Context :=
  { context with bindings := entry :: (context.forget entry.name).bindings }

/-- The context with a value for a variable, which programs find if they did before. -/
def assign (name : String) (value : Bytes) (context : Context) : Context :=
  context.put ⟨name, value, (context.binding? name).any Variable.isExported⟩

def assignExported (name : String) (value : Bytes) (context : Context) : Context :=
  context.put ⟨name, value, true⟩

def revert (name : String) (before : Option Variable) (context : Context) : Context :=
  before.elim (context.forget name) context.put

def environment (context : Context) : List (String × Bytes) :=
  (context.bindings.filter Variable.isExported).map fun entry => (entry.name, entry.value)

/-- The value of a parameter, where the arguments are put together. -/
def parameter? (context : Context) (name : String) : Option Bytes :=
  match name with
  | "*" | "@" => some (" ".intercalate context.arguments)
  | "#" => some (toString context.arguments.length)
  | "?" => some (toString context.status)
  | "$" => some (toString context.pid)
  | "!" => context.lastJob.map toString
  | "0" => some context.name
  | _ =>
    match Bytes.natural? name with
    | some number => context.arguments[number - 1]?
    | none => context.value? name

/-! ## Expansion -/

inductive Part where
  | character (c : Char)
  /-- There were quotes, perhaps without anything in between. -/
  | quotes
  /-- A blank at which fields are split. -/
  | blank (c : Char)
  deriving DecidableEq, Repr

namespace Part

def ofText (value : Bytes) (quoted : Bool) : List Part :=
  (if quoted then [quotes] else []) ++ value.toList.map character

/-- The parts of what came from elsewhere. -/
def ofValue (value : Bytes) (quoted : Bool) : List Part :=
  if quoted then ofText value true
  else value.toList.map fun c =>
    if c = ' ' || c = '\t' || c = '\n' then blank c else character c

def char? : Part → Option Char
  | character c | blank c => some c
  | quotes => none

end Part

def partsOfPiece (context : Context) : Piece → List Part
  | .text value quoted => Part.ofText value quoted
  | .printed value quoted => Part.ofValue value quoted
  | .parameter name quoted =>
    if name = "@" || (name = "*" && !quoted) then
      List.intercalate [.blank ' '] (context.arguments.map fun word => Part.ofValue word quoted)
    else Part.ofValue ((context.parameter? name).getD "") quoted
  | .output .. => []

/-- The text of a word that is not split. -/
def textOf (context : Context) (word : Word) : Bytes :=
  String.ofList ((word.flatMap context.partsOfPiece).filterMap Part.char?)

/-- The fields of parts, given the current one if there is one. -/
def fieldsFrom (current : Option (List Char)) : List Part → List Bytes
  | [] => (current.map String.ofList).toList
  | .character c :: rest => fieldsFrom (some (current.getD [] ++ [c])) rest
  | .quotes :: rest => fieldsFrom (some (current.getD [])) rest
  | .blank _ :: rest => (current.map String.ofList).toList ++ fieldsFrom none rest

def fieldsOf (context : Context) (words : List Word) : List Bytes :=
  words.flatMap fun word => fieldsFrom none (word.flatMap context.partsOfPiece)

end Context

end ProfilingSession.Shell
