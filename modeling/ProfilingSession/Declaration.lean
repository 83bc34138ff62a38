import ProfilingSession.Selection

/-!
# Declarations of events

A declaration is what an instrumented program needs to send an event: a macro that takes all
parameters of the event, whatever analysis it is compiled for, and passes on those that the
analysis keeps, in wire order, to a helper whose name spells their widths.

`declare` makes the declarations of a catalog, restricted to a selection if there is one.
-/

namespace ProfilingSession

open Specification (Problem)

structure Declaration where
  event : String
  /-- The parameters of the macro: all of the event, in wire order. -/
  parameters : List Parameter
  /-- The parameters that are put into the record, in wire order. -/
  payload : List Parameter
  deriving DecidableEq, Repr

namespace Declaration

/-- The width of the tag that every record starts with, in bits. -/
def tagWidth : Nat := 8

def ofEvent (keeps : String → Bool) (event : Event) : Declaration :=
  ⟨event.name, event.parameters, event.parameters.filter fun parameter => keeps parameter.name⟩

/-- The tag of a record: the name of the event in capitals. -/
def tag (declaration : Declaration) : String :=
  Text.upper declaration.event

def macroName (declaration : Declaration) : String :=
  "PRODUCE_" ++ declaration.tag

/-- The name of the helper: the widths of the tag and of the payload. -/
def helperName (declaration : Declaration) : String :=
  "produce_" ++ toString tagWidth ++
    String.join (declaration.payload.map fun parameter => "_" ++ toString parameter.width)

/-- The widths of the payload, added up in words of 64 bits. -/
def payloadBits (declaration : Declaration) : UInt64 :=
  declaration.payload.foldl (fun bits parameter => bits + UInt64.ofNat parameter.width) 0

/-- The number of bytes of a record, the tag included, in a word of 64 bits. -/
def recordSize (declaration : Declaration) : Nat :=
  ((UInt64.ofNat tagWidth + declaration.payloadBits) / 8).toNat

def line (declaration : Declaration) : String :=
  "#define " ++ declaration.macroName ++ "(" ++
    ", ".intercalate (declaration.parameters.map Parameter.name) ++ ") " ++
    declaration.helperName ++ "(" ++ declaration.tag ++
    String.join (declaration.payload.map fun parameter => ", " ++ parameter.name) ++ ")"

end Declaration

/-- The declaration of a choice, whose event has to be in the catalog. -/
def declareChoice (catalog : Catalog) (choice : Choice) : Except Problem Declaration :=
  match catalog.event? choice.event with
  | some event => .ok (.ofEvent choice.keeps event)
  | none => .error (.unknownEvent choice.event)

/-- The declarations of all events of a catalog, in its order, or of those of a selection, in the
order of that one. -/
def declare (catalog : Catalog) : Option Selection → Except Problem (List Declaration)
  | none => .ok (catalog.events.map (.ofEvent fun _ => true))
  | some selection => selection.choices.mapM (declareChoice catalog)

end ProfilingSession
