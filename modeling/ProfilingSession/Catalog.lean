import ProfilingSession.Specification.Reading
import ProfilingSession.Text.Words

/-!
# The catalog of events

The catalog says which events an instrumented program can send and, for each, its parameters in
the order they are put on the wire, with their widths in bits. `Catalog.ofDocument` reads it from
a specification: names have to be identifiers, event names have to differ in more than the case of
their letters, since the tags made of them are in capitals, and widths have to be whole bytes.
Entries are checked in the order they are written, so the first one that is wrong is reported.
-/

namespace ProfilingSession

open Specification (Problem)

structure Parameter where
  name : String
  /-- The width on the wire, in bits. -/
  width : Nat
  deriving DecidableEq, Repr

/-- An event, with its parameters in wire order. -/
structure Event where
  name : String
  parameters : List Parameter
  deriving DecidableEq, Repr

def Event.parameter? (event : Event) (name : String) : Option Parameter :=
  event.parameters.find? fun parameter => parameter.name == name

/-- All events, in the order they are written. -/
structure Catalog where
  events : List Event
  deriving DecidableEq, Repr

namespace Catalog

def event? (catalog : Catalog) (name : String) : Option Event :=
  catalog.events.find? fun event => event.name == name

def size (catalog : Catalog) : Nat :=
  catalog.events.length

def greatestWidth : Nat := Nat.pow 2 32 - 8

/-- A width on the wire: whole bytes, at least one. -/
def isWidth (width : Int) : Bool :=
  0 < width && width % 8 == 0 && width ≤ greatestWidth

def checkIdentifier (name : String) : Except Problem Unit :=
  if Text.isIdentifier name then .ok () else .error (.badIdentifier name)

def readParameter (event : String) (entry : String × Document) : Except Problem Parameter := do
  checkIdentifier entry.1
  match entry.2 with
  | .int width =>
    if isWidth width then return ⟨entry.1, width.toNat⟩
    else .error (.badWidth event entry.1 width)
  | _ => .error (.notWhole event entry.1)

def readParameters (event : String) : Document → Except Problem (List Parameter)
  | .null => .ok []
  | .mapping entries => entries.mapM (readParameter event)
  | _ => .error (.parametersNotMapping event)

/-- Reads events after those whose names are `seen`. -/
def readEvents (seen : List String) : List (String × Document) → Except Problem (List Event)
  | [] => .ok []
  | (name, body) :: rest => do
    checkIdentifier name
    if seen.any (Text.sameLetters name) then .error (.repeatedEvent name)
    let parameters ← readParameters name body
    let events ← readEvents (name :: seen) rest
    return ⟨name, parameters⟩ :: events

def ofDocument (document : Document) : Except Problem Catalog := do
  return ⟨← readEvents [] (← Specification.eventsOf .catalog document)⟩

def parse (format : Document.Format) (text : String) : Except Problem Catalog := do
  ofDocument (← Specification.parse format text)

end Catalog

end ProfilingSession
