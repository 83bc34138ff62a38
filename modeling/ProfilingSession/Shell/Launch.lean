import ProfilingSession.Shell.Builtin
import ProfilingSession.Shell.Program
import ProfilingSession.Shell.Start

/-!
# Running programs

A program that a command names is found by its path, or in the directories where programs are looked
for. Scripts become processes of their own; a utility does all that it does at once. A command may
also replace the shell by the program.
-/

namespace ProfilingSession.Shell

open FileTree (Cause Path)

structure Running where
  line : Nat
  /-- Whether the program takes the place of the shell. -/
  replaces : Bool

namespace Turn

/-- Where programs are looked for if nothing else is said. -/
def usualPlaces : Bytes :=
  "/usr/local/sbin:/usr/local/bin:/usr/sbin:/usr/bin:/sbin:/bin"

def canRun (files : FileTree) (path : Path) : Bool :=
  (Program.system? files path).isSome ||
    (files.hasFile path && files.permits FileTree.Node.mayRunBit path)

def pathOf? (turn : Turn) (name : Bytes) : Option Bytes :=
  if name.toList.contains '/' then some name
  else if name = "" then none
  else
    let places := ((turn.context.value? "PATH").getD usualPlaces).splitOn ":"
    (places.map fun place => Utility.below place name).find? fun path =>
      canRun turn.files (Bytes.toText path)

def program? (turn : Turn) (name : Bytes) (words : List Bytes) :
    Except Cause (String × Bytes × List Bytes) :=
  match turn.pathOf? name with
  | none => .error .absent
  | some path =>
    match Program.follow turn.files Program.mostScripts (Bytes.toText path) [] with
    | .ok program =>
      let called := if program.leading.isEmpty then name else Bytes.ofText program.called
      .ok (program.name, called, program.leading.map Bytes.ofText ++ words)
    | .error .unknownProgram => .ok ("sh", "/bin/sh", path :: words)
    | .error cause => .error cause

/-- The exit code of a command that cannot be run. -/
def failureStatus : Cause → Nat
  | .system 2 | .system 20 | .system 36 | .system 40 => 127
  | _ => 126

def notRun (running : Running) (name : Bytes) (cause : Cause) (turn : Turn) : Turn :=
  let message := name ++ ": " ++ openText "not found" cause
  let status := failureStatus cause
  if running.replaces then (turn.complain running.line ("exec: " ++ message)).exit status
  else (turn.complain running.line message).conclude status

/-! ## Kinds of programs -/

/-- Says something; the exit code is one if it cannot be printed. -/
def say (called : Bytes) (turn : Turn) (status : Nat) : Saying → Turn × Nat
  | .err text => (turn.tell 2 text, status)
  | .out text =>
    match turn.write 1 text with
    | .ok turn => (turn, status)
    | .error cause => (turn.tell 2 (Utility.complaint called "write error" cause), 1)

def runUtility (program : String) (called : Bytes) (words : List Bytes) (turn : Turn) : Turn :=
  let result := Utility.run program
    { files := turn.files
      input := turn.input
      environment := turn.context.environment
      name := called
      words := words }
  let turn := (turn.withFiles result.files).takeInput result.taken
  let (turn, status) := result.said.foldl (fun (turn, status) => turn.say called status)
    (turn, result.status)
  turn.conclude status

/-- The time in nanoseconds that a word tells in seconds, perhaps with a fraction. -/
def time? (s : Bytes) : Option Nat :=
  match s.splitOn "." with
  | [whole] => (Bytes.natural? whole).map (· * 1000000000)
  | [whole, fraction] => do
    let whole ← if whole = "" then some 0 else Bytes.natural? whole
    let digits ← Bytes.natural? fraction
    return whole * 1000000000 + digits * 1000000000 / Nat.pow 10 fraction.length
  | _ => none

def sleep (called : Bytes) (words : List Bytes) (turn : Turn) : Turn :=
  let failed (what : Bytes) : Turn := (turn.tell 2 (Utility.misuse called what)).conclude 1
  match words, words.find? fun word => (time? word).isNone with
  | [], _ => failed "missing operand"
  | _, some word => failed ("invalid time interval " ++ Utility.quoted word)
  | _, none => { turn with cost := (words.filterMap time?).foldl (· + ·) turn.cost }.conclude 0

def runShell (surroundings : Surroundings) (running : Running) (called : Bytes)
    (words : List Bytes) (turn : Turn) : Turn :=
  match Start.ofWords turn.files called words with
  | .error message => (turn.tell 2 message).conclude 2
  | .ok start =>
    let input := turn.input.toOption.getD ""
    let turn := if start.script.isSome then turn else turn.takeInput input.length
    let command := Command.read 1 (start.script.getD input)
    let context := turn.context
    let begun (pid : Nat) : Context :=
      start.context pid context.environment context.descriptors context.working
    if running.replaces then
      let stack := turn.process.stack.dropWhile fun frame => !frame.isCapture
      ((turn.withStack stack).mapContext fun _ => begun turn.process.pid).execute command
    else
      let child := surroundings.nextPid
      (turn.spawn surroundings (begun child) (.execute command)).await [child] true

/-- The variables that words in front of a command give, and the command. -/
def environmentOf (context : Context) : List Bytes → Context × List Bytes
  | [] => (context, [])
  | word :: rest =>
    match assignmentOf word with
    | (name, some value) => environmentOf (context.assignExported name value) rest
    | (_, none) => (context, word :: rest)

/-- Runs a program by its name; one that runs others is followed by what it runs, within a number
of steps. -/
def runProgramWithin (surroundings : Surroundings) (running : Running) :
    Nat → Bytes → List Bytes → Turn → Turn
  | 0, _, _, turn => turn.conclude 126
  | fuel + 1, name, words, turn =>
    match turn.program? name words with
    | .error cause => turn.notRun running name cause
    | .ok ("env", _, words) =>
      match environmentOf turn.context words with
      | (inner, []) =>
        let lines := inner.environment.map fun entry => entry.1 ++ "=" ++ entry.2 ++ "\n"
        (turn.tell 1 (String.join lines)).conclude 0
      | (inner, name :: rest) =>
        let before := turn.context.bindings.map fun entry => (entry.name, some entry)
        runProgramWithin surroundings running fuel name rest
          ((turn.push (.revert before)).mapContext fun _ => inner)
    | .ok (program, called, words) =>
      if Program.shells.contains program then turn.runShell surroundings running called words
      else if program = "sleep" then turn.sleep called words
      else if program = "kill" then turn.kill surroundings ⟨running.line, called, words⟩
      else turn.runUtility program called words

def runProgram (surroundings : Surroundings) (running : Running) (name : Bytes)
    (words : List Bytes) (turn : Turn) : Turn :=
  runProgramWithin surroundings running (words.length + 2) name words
    { turn with cost := turn.cost + programTime }

def replaceShell (surroundings : Surroundings) (line : Nat) (words : List Bytes) (turn : Turn) :
    Turn :=
  match words with
  | [] => turn.conclude 0
  | name :: rest => (turn.push .finish).runProgram surroundings ⟨line, true⟩ name rest

end Turn

end ProfilingSession.Shell
