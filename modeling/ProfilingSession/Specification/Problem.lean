import ProfilingSession.Document.Format
import ProfilingSession.FileTree.Cause
import ProfilingSession.FileTree.Path
import ProfilingSession.Text.Quoted

/-!
# What can be wrong with a specification

A specification is a document of events: the catalog of all events (the API), or the selection of
events that one analysis consumes (a module). `Problem` lists what can be wrong with one, each
with the names its author needs to find the line, and `Problem.message` words it.
-/

namespace ProfilingSession.Specification

open Document (TextFault)
open FileTree (Cause Path)

/-- The two kinds of specification. -/
inductive Kind where
  | catalog
  | selection
  deriving DecidableEq, Repr

def Kind.word : Kind → String
  | .catalog => "API"
  | .selection => "module"

inductive Problem where
  | noEvents (kind : Kind)
  | eventsNotMapping (kind : Kind)
  | parametersNotMapping (event : String)
  | notWhole (event parameter : String)
  | badWidth (event parameter : String) (width : Int)
  | repeatedEvent (event : String)
  | repeatedParameter (event parameter : String)
  | repeatedKey (key : String)
  | unknownEvent (event : String)
  | unknownParameter (event parameter : String)
  | badParameterList (event : String)
  | badIdentifier (name : String)
  | unknownFormat (path : Path)
  | unreadable (path : Path) (cause : Cause)
  | badText (fault : TextFault)
  deriving DecidableEq, Repr

/-- The words for a problem. What is wrong with a YAML text is not said. -/
def Problem.message : Problem → String
  | .noEvents kind => "No events in " ++ kind.word ++ " specification"
  | .eventsNotMapping kind => "`events` in " ++ kind.word ++ " specification is not a mapping"
  | .parametersNotMapping event => "Parameters for event " ++ event ++ " are not a mapping"
  | .notWhole event parameter =>
    "Parameter " ++ parameter ++ " for event " ++ event ++ " is not an int"
  | .badWidth event parameter width =>
    "Parameter " ++ parameter ++ " for event " ++ event ++ " has width " ++ toString width ++
      ", not a positive multiple of 8"
  | .repeatedEvent event =>
    "Event " ++ event ++ " is declared more than once (names are compared case-insensitively)"
  | .repeatedParameter event parameter =>
    "Parameter " ++ parameter ++ " for event " ++ event ++ " is declared more than once"
  | .repeatedKey key => "Key " ++ Text.quoted key ++ " is repeated"
  | .unknownEvent event => "Event " ++ event ++ " is not in the API"
  | .unknownParameter event parameter =>
    "Parameter " ++ parameter ++ " for event " ++ event ++ " is not in the API"
  | .badParameterList event =>
    "Parameter list for event " ++ event ++ " must be null, a list or a mapping"
  | .badIdentifier name => Text.quoted name ++ " is not a valid identifier"
  | .unknownFormat path => "Unknown document format: " ++ path
  | .unreadable path cause => "Failed to read " ++ path ++ ": " ++ cause.message
  | .badText (.json message) => message
  | .badText .yaml => "<yaml>"

/-- The messages of a problem and of what caused it, outermost first. -/
def Problem.chain (problem : Problem) : List String :=
  match problem with
  | .unreadable _ cause => [problem.message, cause.message]
  | _ => [problem.message]

end ProfilingSession.Specification
