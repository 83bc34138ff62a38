import ProfilingSession.Shell.Redirection
import ProfilingSession.Shell.Signal
import ProfilingSession.Shell.Utility

/-!
# Commands that the shell has itself

Commands that change what the shell knows, print, or tell something by their exit code. What goes
wrong with some of them ends the script: these are the special ones.
-/

namespace ProfilingSession.Shell

/-- A command with its words. -/
structure Invocation where
  line : Nat
  name : Bytes
  words : List Bytes

namespace Invocation

/-- Commands whose failure ends the script. -/
def specialNames : List Bytes :=
  [":", "exec", "exit", "export", "set", "shift"]

/-- The other commands that the shell has itself. -/
def ordinaryNames : List Bytes :=
  ["cd", "echo", "false", "kill", "printf", "test", "[", "true", "wait"]

def isBuiltIn (name : Bytes) : Bool :=
  specialNames.contains name || ordinaryNames.contains name

def fail (invocation : Invocation) (message : Bytes) (turn : Turn) : Turn :=
  let message := invocation.name ++ ": " ++ message
  if specialNames.contains invocation.name then turn.stop invocation.line message
  else (turn.complain invocation.line message).conclude 2

/-- Goes on with the number that the first word is, or with another one if there are no words. -/
def reading (invocation : Invocation) (otherwise : Nat) (goOn : Nat → Turn → Turn) (turn : Turn) :
    Turn :=
  match invocation.words with
  | [] => goOn otherwise turn
  | word :: _ =>
    match Bytes.natural? word with
    | some n => goOn n turn
    | none => invocation.fail ("Illegal number: " ++ word) turn

end Invocation

namespace Turn

/-! ## Variables, arguments and directories -/

/-- A word as a name and the value that it gives. -/
def assignmentOf (word : Bytes) : String × Option Bytes :=
  let name := String.ofList (word.toList.takeWhile (· ≠ '='))
  match word.toList.drop name.length with
  | _ :: value => (name, some (String.ofList value))
  | [] => (name, none)

/-- Puts variables into the environment, one after the other. -/
def exportVariables (invocation : Invocation) : List Bytes → Turn → Turn
  | [], turn => turn.conclude 0
  | word :: rest, turn =>
    let (name, value?) := assignmentOf word
    if !isName name then invocation.fail (name ++ ": bad variable name") turn
    else
      exportVariables invocation rest <| turn.mapContext fun context =>
        (value? <|> context.value? name).elim context fun value => context.assignExported name value

/-- Changes whether failures end the script, or the arguments. -/
def set (invocation : Invocation) (turn : Turn) : Turn :=
  let arguments (words : List Bytes) : Turn :=
    (turn.mapContext fun context => { context with arguments := words }).conclude 0
  match invocation.words with
  | [] => turn.conclude 0
  | ["-e"] => (turn.mapContext fun context => { context with stopsOnFailure := true }).conclude 0
  | ["+e"] => (turn.mapContext fun context => { context with stopsOnFailure := false }).conclude 0
  | "--" :: words => arguments words
  | word :: words =>
    if word.startsWith "-" || word.startsWith "+" then
      invocation.fail ("Illegal option " ++ word) turn
    else arguments (word :: words)

def shift (invocation : Invocation) (count : Nat) (turn : Turn) : Turn :=
  if turn.context.arguments.length < count then invocation.fail "can't shift that many" turn
  else
    (turn.mapContext fun context =>
      { context with arguments := context.arguments.drop count }).conclude 0

def changeDirectory (invocation : Invocation) (turn : Turn) : Turn :=
  let path := invocation.words.headD ((turn.context.value? "HOME").getD "")
  match turn.files.locate (Bytes.toText path), turn.files.hasDirectory (Bytes.toText path) with
  | .ok location, true =>
    (turn.mapContext fun context => { context with working := location }).conclude 0
  | _, _ => invocation.fail ("can't cd to " ++ path) turn

/-! ## Printing and testing -/

def print (invocation : Invocation) (text : Bytes) (turn : Turn) : Turn :=
  match turn.write 1 text with
  | .ok turn => turn.conclude 0
  | .error _ => (turn.complain invocation.line (invocation.name ++ ": I/O error")).conclude 1

def printFormat (invocation : Invocation) (turn : Turn) : Turn :=
  match invocation.words with
  | [] => invocation.fail "usage: printf format [arg ...]" turn
  | format :: words =>
    match Format.print format words with
    | .ok text => turn.print invocation text
    | .error directive => invocation.fail (directive ++ ": invalid directive") turn

/-- Tells by the exit code whether a test holds. -/
def test (invocation : Invocation) (words : List Bytes) (turn : Turn) : Turn :=
  match Test.holds? turn.files words with
  | .ok holds => turn.conclude (if holds then 0 else 1)
  | .error message => invocation.fail message turn

/-! ## Signals and processes -/

def killUsage : Bytes :=
  "Usage: kill [-s sigspec | -signum | -sigspec] [pid | job]... or\nkill -l [exitstatus]"

/-- The signal that words ask for, and the words that name processes. -/
def signalOf : List Bytes → Except Bytes (Nat × List Bytes)
  | "-s" :: name :: targets =>
    (Signal.number? name).elim (.error ("invalid signal number or name: " ++ name)) fun signal =>
      .ok (signal, targets)
  | ["-s"] => .error "No arg for -s option"
  | "--" :: targets => .ok (15, targets)
  | word :: targets =>
    if !word.startsWith "-" then .ok (15, word :: targets)
    else
      match Signal.number? (String.ofList (word.toList.drop 1)) with
      | some signal => .ok (signal, targets)
      | none => .error ("Illegal option " ++ String.ofList (word.toList.take 2))
  | [] => .ok (15, [])

/-- Sends a signal to processes one after the other; signal zero only asks whether they run. -/
def sendAll (surroundings : Surroundings) (invocation : Invocation) (signal : Nat) (failed : Bool) :
    List Bytes → Turn → Turn
  | [], turn => turn.conclude (if failed then 1 else 0)
  | target :: rest, turn =>
    match Bytes.natural? target with
    | none => invocation.fail ("Illegal number: " ++ target) turn
    | some pid =>
      if surroundings.isAlive pid then
        let sent := if signal = 0 then [] else [(pid, signal)]
        sendAll surroundings invocation signal failed rest
          { turn with signals := turn.signals ++ sent }
      else
        sendAll surroundings invocation signal true rest
          (turn.complain invocation.line (invocation.name ++ ": No such process\n"))

def kill (surroundings : Surroundings) (invocation : Invocation) (turn : Turn) : Turn :=
  match signalOf invocation.words with
  | .error message => invocation.fail message turn
  | .ok (_, []) =>
    invocation.fail killUsage turn
  | .ok (signal, targets) => turn.sendAll surroundings invocation signal false targets

def wait (invocation : Invocation) (turn : Turn) : Turn :=
  match invocation.words with
  | [] => turn.await turn.process.children false
  | words =>
    match words.find? fun word => (Bytes.natural? word).isNone with
    | some word => invocation.fail ("Illegal number: " ++ word) turn
    | none => turn.await (words.filterMap Bytes.natural?) true

def runBuiltIn (surroundings : Surroundings) (invocation : Invocation) (turn : Turn) : Turn :=
  match invocation.name with
  | "exit" => invocation.reading turn.context.status Turn.exit turn
  | "export" => turn.exportVariables invocation invocation.words
  | "set" => turn.set invocation
  | "shift" => invocation.reading 1 (shift invocation) turn
  | "cd" => turn.changeDirectory invocation
  | "echo" => turn.print invocation (Format.echo invocation.words)
  | "printf" => turn.printFormat invocation
  | "test" => turn.test invocation invocation.words
  | "[" =>
    if invocation.words.getLast? = some "]" then turn.test invocation invocation.words.dropLast
    else invocation.fail "missing ]" turn
  | "kill" => turn.kill surroundings invocation
  | "wait" => turn.wait invocation
  | "false" => turn.conclude 1
  | _ => turn.conclude 0

end Turn

end ProfilingSession.Shell
