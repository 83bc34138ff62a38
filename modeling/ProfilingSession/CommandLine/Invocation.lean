import ProfilingSession.CommandLine.RunOptions
import ProfilingSession.HeaderSet

/-!
# Invocations

What a command line asks for. One program has two commands, to run a session and to generate a
header, and a switch that makes both say less; it may stand before and after the command. Another
one generates the headers of all analyses.
-/

namespace ProfilingSession.CommandLine

/-- Variables of the environment with their values. -/
abbrev Environment := List (String × String)

def Environment.value? (environment : Environment) (name : String) : Option String :=
  (environment.find? fun entry => entry.1 == name).map Prod.snd

/-- Takes an option from the environment if it was not given. -/
def takeVariable (grammar : Grammar) (environment : Environment) (scan : Scan)
    (source : String × String) : Except UsageFault Scan :=
  match grammar.long? source.1, environment.value? source.2 with
  | some form, some value =>
    if scan.given.has form.name then .ok scan
    else scan.take form (form.value.getD .text) value
  | _, _ => .ok scan

def readCommand (grammar : Grammar) (environment : Environment)
    (sources : List (String × String)) (words : List String) : Except UsageFault Given := do
  let (scan, _) ← grammar.scan .start words
  return (← sources.foldlM (takeVariable grammar environment) (← scan.settle)).given

inductive Command where
  | run (options : RunOptions)
  | generate (request : Generation.Request)
  deriving DecidableEq, Repr

structure Invocation where
  command : Command
  quiet : Bool
  deriving DecidableEq, Repr

namespace Invocation

/-- The switch that makes commands say less. -/
def quietSwitch : OptionForm := ⟨"quiet", some 'q', none⟩

def grammar : Grammar where
  options := [quietSwitch]
  operand := none
  passesOn := false
  commands := ["run", "generate", "help"]

def generateGrammar : Grammar where
  options :=
    [⟨"module", some 'm', some .profiler⟩, ⟨"config-dir", none, some .path⟩,
      ⟨"template", some 't', some .path⟩, ⟨"output", some 'o', some .path⟩, quietSwitch]
  operand := none
  passesOn := false
  commands := []

def readRun (environment : Environment) (words : List String) :
    Except UsageFault (Command × Bool) := do
  let given ← readCommand RunOptions.grammar environment RunOptions.fromEnvironment words
  RunOptions.check given
  return (.run (.ofGiven given), given.has quietSwitch.name)

def readGenerate (words : List String) : Except UsageFault (Command × Bool) := do
  let given ← readCommand generateGrammar [] [] words
  match given.value? "config-dir" with
  | none => .error .missingArgument
  | some directory =>
    return (.generate ⟨(given.value? "module").bind Profiler.ofName?, directory,
      given.value? "template", (given.value? "output").getD Generation.standardHeader⟩,
      given.has quietSwitch.name)

def readHelp (commands : List String) : List String → UsageFault
  | [] => .help
  | [word] => if commands.contains word then .help else .unknownCommand
  | _ => .unknownCommand

def parse (environment : Environment) (words : List String) : Except UsageFault Invocation := do
  let (scan, command) ← grammar.scan .start words
  let quiet := scan.given.has quietSwitch.name
  match command with
  | none => .error (if quiet then .noCommand else .nothingGiven)
  | some (name, rest) =>
    if name = "help" then .error (readHelp grammar.commands rest)
    else
      let (command, quietHere) ←
        if name = "run" then readRun environment rest else readGenerate rest
      return ⟨command, quiet || quietHere⟩

end Invocation

/-! The command line of the program that generates the headers of all analyses. -/

namespace HeaderSetLine

def grammar : Grammar where
  options := []
  operand := none
  passesOn := false
  commands := ["gen-frontend", "help"]

def commandGrammar : Grammar where
  options :=
    [⟨"config-dir", none, some .path⟩, ⟨"template", none, some .path⟩,
      ⟨"out-dir", none, some .path⟩]
  operand := none
  passesOn := false
  commands := []

def parse (words : List String) : Except UsageFault HeaderSet.Request := do
  let (_, command) ← grammar.scan .start words
  match command with
  | none => .error .nothingGiven
  | some (name, rest) =>
    if name = "help" then .error (Invocation.readHelp grammar.commands rest)
    else
      let given ← readCommand commandGrammar [] [] rest
      return ⟨(given.value? "config-dir").getD HeaderSet.standardDirectory,
        given.value? "template", (given.value? "out-dir").getD HeaderSet.standardOutput⟩

end HeaderSetLine

end ProfilingSession.CommandLine
