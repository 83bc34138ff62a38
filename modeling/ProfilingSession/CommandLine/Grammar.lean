import ProfilingSession.CommandLine.Value

/-!
# Command lines

A grammar says which options a command has, whether it takes an operand, and whether arguments
may follow two dashes. `Grammar.scan` reads words by a grammar, up to the name of a command if the
grammar has commands.

An option has a long form, `--name`, and often a short one, `-n`. A value follows as the next word,
after an equals sign, or right behind the short form; short forms without values can be put
together. The value in the next word is looked at only when something else comes up that is
understood, or at the end: a word that is not understood at all is reported first.
-/

namespace ProfilingSession.CommandLine

structure OptionForm where
  /-- The long form, without dashes. -/
  name : String
  short : Option Char
  /-- The kind of its value; an option without one is a switch. -/
  value : Option ValueKind
  deriving DecidableEq, Repr

structure Grammar where
  options : List OptionForm
  /-- The kind of the operand, if there may be one. -/
  operand : Option ValueKind
  /-- Whether arguments may follow two dashes. -/
  passesOn : Bool
  /-- The names of the commands that may follow. -/
  commands : List String
  deriving DecidableEq, Repr

structure Given where
  /-- Options in the order they were given, with their values; switches have an empty one. -/
  options : List (String × String)
  operand : Option String
  /-- The arguments after two dashes. -/
  passedOn : List String
  deriving DecidableEq, Repr

namespace Given

def nothing : Given := ⟨[], none, []⟩

def has (given : Given) (name : String) : Bool :=
  given.options.any fun entry => entry.1 == name

def value? (given : Given) (name : String) : Option String :=
  (given.options.find? fun entry => entry.1 == name).map Prod.snd

end Given

/-- What was begun and not looked at yet. -/
inductive Pending where
  | nothing
  /-- An option whose value has to be the next word. -/
  | waiting (form : OptionForm)
  /-- An option with the value from the next word. -/
  | option (form : OptionForm) (kind : ValueKind) (value : String)
  | operand (kind : ValueKind) (value : String)
  deriving DecidableEq, Repr

/-- What is known after some words. -/
structure Scan where
  given : Given
  pending : Pending
  /-- Whether the operand was there. -/
  hadOperand : Bool
  /-- Whether two dashes were there. -/
  escaped : Bool
  deriving DecidableEq, Repr

namespace Scan

def start : Scan := ⟨.nothing, .nothing, false, false⟩

/-- Takes an option with its value, unless it was there already. -/
def take (scan : Scan) (form : OptionForm) (kind : ValueKind) (value : String) :
    Except UsageFault Scan := do
  if scan.given.has form.name then .error .conflict
  kind.check value
  return { scan with
    given := { scan.given with options := scan.given.options ++ [(form.name, value)] } }

/-- Looks at what was begun. -/
def settle (scan : Scan) : Except UsageFault Scan :=
  let settled := { scan with pending := .nothing }
  match scan.pending with
  | .nothing => .ok scan
  | .waiting _ => .error .missingValue
  | .option form kind value => settled.take form kind value
  | .operand kind value => do
    kind.check value
    return { settled with given := { settled.given with operand := some value } }

def takeSwitch (scan : Scan) (form : OptionForm) : Except UsageFault Scan := do
  (← scan.settle).take form .text ""

def takeAttached (scan : Scan) (form : OptionForm) (kind : ValueKind) (value : String) :
    Except UsageFault Scan := do
  (← scan.settle).take form kind value

def begin (scan : Scan) (form : OptionForm) : Except UsageFault Scan := do
  return { ← scan.settle with pending := .waiting form }

/-- Help is given once what was begun is right. -/
def askHelp (scan : Scan) : Except UsageFault Scan := do
  let _ ← scan.settle
  .error .help

end Scan

namespace Grammar

/-- The option with a long form. -/
def long? (grammar : Grammar) (name : String) : Option OptionForm :=
  grammar.options.find? fun form => form.name == name

def short? (grammar : Grammar) (letter : Char) : Option OptionForm :=
  grammar.options.find? fun form => form.short == some letter

def splitValue (cs : List Char) : String × Option String :=
  let name := cs.takeWhile (· ≠ '=')
  match cs.drop name.length with
  | _ :: value => (String.ofList name, some (String.ofList value))
  | [] => (String.ofList name, none)

def longForm (grammar : Grammar) (scan : Scan) (cs : List Char) : Except UsageFault Scan :=
  let (name, value) := splitValue cs
  match grammar.long? name, value with
  | some form, value =>
    match form.value, value with
    | some kind, some value => scan.takeAttached form kind value
    | some _, none => scan.begin form
    | none, some _ => .error .needlessValue
    | none, none => scan.takeSwitch form
  | none, some _ => if name = "help" then .error .needlessValue else .error .unknownArgument
  | none, none => if name = "help" then scan.askHelp else .error .unknownArgument

/-- The value right behind a short form; an equals sign before it does not count. -/
def attached : List Char → Option String
  | [] => none
  | '=' :: rest => some (String.ofList rest)
  | cs => some (String.ofList cs)

def shortForms (grammar : Grammar) (scan : Scan) : List Char → Except UsageFault Scan
  | [] => .ok scan
  | letter :: rest =>
    match grammar.short? letter with
    | some form =>
      match form.value, attached rest with
      | some kind, some value => scan.takeAttached form kind value
      | some _, none => scan.begin form
      | none, _ => do
        let scan ← scan.takeSwitch form
        grammar.shortForms scan rest
    | none => if letter = 'h' then scan.askHelp else .error .unknownArgument

/-- What is said about a word that has no place. -/
def strayWord (grammar : Grammar) (scan : Scan) (word : String) : UsageFault :=
  if grammar.commands.isEmpty || (scan.escaped && grammar.commands.contains word) then
    .unknownArgument
  else .unknownCommand

/-- Reads a word that is no option: the value that an option waits for, or the operand. -/
def plainWord (grammar : Grammar) (scan : Scan) (word : String) : Except UsageFault Scan :=
  match scan.pending, grammar.operand with
  | .waiting form, _ =>
    .ok { scan with pending := .option form (form.value.getD .text) word }
  | _, some kind =>
    if scan.hadOperand then .error (grammar.strayWord scan word)
    else do
      return { ← scan.settle with pending := .operand kind word, hadOperand := true }
  | _, none => .error (grammar.strayWord scan word)

/-- Reads a word after two dashes. -/
def passedWord (grammar : Grammar) (scan : Scan) (word : String) : Except UsageFault Scan :=
  if grammar.passesOn then do
    let scan ← scan.settle
    return { scan with given := { scan.given with passedOn := scan.given.passedOn ++ [word] } }
  else .error (grammar.strayWord scan word)

def word (grammar : Grammar) (scan : Scan) (word : String) : Except UsageFault Scan :=
  if scan.escaped then grammar.passedWord scan word
  else
    match word.toList with
    | ['-', '-'] => .ok { scan with escaped := true }
    | '-' :: '-' :: cs => grammar.longForm scan cs
    | '-' :: c :: cs => grammar.shortForms scan (c :: cs)
    | _ => grammar.plainWord scan word

/-- Whether a word is taken as a command. -/
def isCommand (grammar : Grammar) (scan : Scan) (word : String) : Bool :=
  !scan.escaped && grammar.commands.contains word &&
    match scan.pending with
    | .waiting _ => false
    | _ => true

/-- Reads words up to the name of a command; gives that name and the words after it as well. -/
def scan (grammar : Grammar) (state : Scan) :
    List String → Except UsageFault (Scan × Option (String × List String))
  | [] => .ok (state, none)
  | word :: rest =>
    if grammar.isCommand state word then .ok (state, some (word, rest))
    else do grammar.scan (← grammar.word state word) rest

end Grammar

end ProfilingSession.CommandLine
