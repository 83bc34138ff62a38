import ProfilingSession.Catalog

/-!
# Selections of events

An analysis consumes some events of the catalog, and of each only some parameters. A `Selection`
lists them. `Selection.ofDocument` reads one against a catalog; the parameters of an event are a
list of names, or the keys of a mapping whose values do not matter, or null for none.
-/

namespace ProfilingSession

open Specification (Problem)

/-- An event that an analysis consumes, with the names of the parameters it keeps. -/
structure Choice where
  event : String
  parameters : List String
  deriving DecidableEq, Repr

def Choice.keeps (choice : Choice) (parameter : String) : Bool :=
  choice.parameters.contains parameter

/-- The events that an analysis consumes, in the order they are written. -/
structure Selection where
  choices : List Choice
  deriving DecidableEq, Repr

namespace Selection

def choice? (selection : Selection) (event : String) : Option Choice :=
  selection.choices.find? fun choice => choice.event == event

/-- The names among the items of a list, which have to be texts. -/
def readName (event : String) : Document → Except Problem String
  | .text name => .ok name
  | _ => .error (.badParameterList event)

def readNames (event : String) : Document → Except Problem (List String)
  | .null => .ok []
  | .mapping entries => .ok (Document.keys entries)
  | .list items => items.mapM (readName event)
  | _ => .error (.badParameterList event)

/-- Names have to differ and to be parameters of the event in the catalog. -/
def checkNames (event : Event) (names : List String) : Except Problem Unit :=
  match firstRepeat names with
  | some name => .error (.repeatedParameter event.name name)
  | none =>
    match names.find? fun name => (event.parameter? name).isNone with
    | some name => .error (.unknownParameter event.name name)
    | none => .ok ()

def readChoice (catalog : Catalog) (entry : String × Document) : Except Problem Choice := do
  match catalog.event? entry.1 with
  | none => .error (.unknownEvent entry.1)
  | some event =>
    let names ← readNames entry.1 entry.2
    checkNames event names
    return ⟨entry.1, names⟩

def ofDocument (catalog : Catalog) (document : Document) : Except Problem Selection := do
  return ⟨← (← Specification.eventsOf .selection document).mapM (readChoice catalog)⟩

def parse (catalog : Catalog) (format : Document.Format) (text : String) :
    Except Problem Selection := do
  ofDocument catalog (← Specification.parse format text)

end Selection

end ProfilingSession
