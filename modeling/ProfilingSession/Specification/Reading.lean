import ProfilingSession.Specification.Problem

/-!
# Reading a specification

A specification is read as a document in which no mapping repeats a key. A name that is repeated
among the events, or among the parameters of one event, is reported as such; any other key only
as a key. `checkNames` looks for repeated names first, and then makes the document from what was
read.
-/

namespace ProfilingSession.Specification

/-- The entries under `events`, if the document is a mapping whose first such entry is one. -/
def writtenEvents : Document → List (String × Document)
  | .mapping top =>
    match Document.lookup "events" top with
    | some (.mapping events) => events
    | _ => []
  | _ => []

/-- The first event, in order, whose parameters repeat a name. -/
def repeatedParameter : List (String × Document) → Option Problem
  | [] => none
  | (event, .mapping parameters) :: rest =>
    match firstRepeat (Document.keys parameters) with
    | some parameter => some (.repeatedParameter event parameter)
    | none => repeatedParameter rest
  | _ :: rest => repeatedParameter rest

/-- The names of a document that are repeated among events or their parameters, if any. -/
def repeatedName (document : Document) : Option Problem :=
  let events := writtenEvents document
  match firstRepeat (Document.keys events) with
  | some event => some (.repeatedEvent event)
  | none => repeatedParameter events

/-- The document of what was read, unless a mapping in it repeats a key. -/
def checkNames (document : Document) : Except Problem Document :=
  match repeatedName document with
  | some problem => .error problem
  | none => document.rebuild.mapError .repeatedKey

/-- Reads a text as the document of a specification. -/
def parse (format : Document.Format) (text : String) : Except Problem Document := do
  checkNames (← (format.read text).mapError .badText)

/-- The format of the specification at a path, by its extension. -/
def formatOf (path : FileTree.Path) : Except Problem Document.Format :=
  match (FileTree.Path.extension? path).bind Document.Format.ofExtension? with
  | some format => .ok format
  | none => .error (.unknownFormat path)

/-- The entries under `events` of a document without repeated keys. -/
def eventsOf (kind : Kind) (document : Document) : Except Problem (List (String × Document)) :=
  match document.get? "events" with
  | none => .error (.noEvents kind)
  | some (.mapping events) => .ok events
  | some _ => .error (.eventsNotMapping kind)

end ProfilingSession.Specification
