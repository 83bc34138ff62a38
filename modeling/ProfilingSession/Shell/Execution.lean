import ProfilingSession.Shell.Launch

/-!
# Executing commands

What a process does in one step: it executes a command as far as it can without another one, goes on
with what is on its stack, or looks how the processes have ended that it waited for.
-/

namespace ProfilingSession.Shell

namespace Turn

/-! ## Simple commands -/

def runFields (surroundings : Surroundings) (line : Nat) (fields : List Bytes) (turn : Turn) :
    Turn :=
  match fields with
  | [] => turn.conclude (turn.context.substituted.getD 0)
  | "exec" :: words => turn.replaceShell surroundings line words
  | name :: words =>
    if Invocation.isBuiltIn name then turn.runBuiltIn surroundings ⟨line, name, words⟩
    else turn.runProgram surroundings ⟨line, false⟩ name words

/-- Makes assignments one after the other. They stay if there is no command, or a special one. -/
def assignAll (stays : Bool) : List (String × Word) → Turn → Turn
  | [], turn => turn
  | (name, word) :: rest, turn =>
    let value := turn.context.textOf word
    if stays then
      assignAll stays rest (turn.mapContext fun context => context.assign name value)
    else
      assignAll stays rest
        ((turn.push (.revert [(name, turn.context.binding? name)])).mapContext fun context =>
          context.assignExported name value)

def executeSimple (surroundings : Surroundings) (line : Nat) (assignments : List (String × Word))
    (words : List Word) (redirections : List Redirection) (turn : Turn) : Turn :=
  let fields := turn.context.fieldsOf words
  let isSpecial := fields.head?.any Invocation.specialNames.contains
  let outer := turn.context.descriptors
  let keepsDescriptors : Bool := redirections.isEmpty || fields.head? = some "exec"
  turn.redirecting line redirections
    (fun turn => if isSpecial then turn.exit 2 else turn.conclude 2)
    fun turn =>
      let turn := if keepsDescriptors then turn else turn.push (.restore outer)
      (turn.assignAll (fields.isEmpty || isSpecial) assignments).runFields surroundings line fields

/-! ## All commands -/

def executeBeside (surroundings : Surroundings) (command : Command) (turn : Turn) : Turn :=
  let (stream, turn) := turn.begins .nothing
  let inner := { turn.context with descriptors := turn.context.descriptors.lead 0 stream }
  ((turn.spawn surroundings inner (.execute command)).mapContext fun context =>
    { context with lastJob := some surroundings.nextPid }).conclude 0

/-- Executes a command that has no scripts in its words. -/
def executeExpanded (surroundings : Surroundings) (command : Command) (turn : Turn) : Turn :=
  match command with
  | .nothing => turn.resume
  | .simple line assignments words redirections =>
    { turn with cost := commandTime }.executeSimple surroundings line assignments words
      redirections
  | .sequence first next => (turn.push (.next next)).execute first
  | .background command => turn.executeBeside surroundings command
  | .both first next => (turn.push (.ifSuccess next)).execute first
  | .either first next => (turn.push (.ifFailure next)).execute first
  | .negation command => (turn.push .negate).execute command
  | .redirected line command redirections =>
    let outer := turn.context.descriptors
    turn.redirecting line redirections (fun turn => turn.conclude 2)
      fun turn => (turn.push (.restore outer)).execute command
  | .branch condition yes no => (turn.push (.branch yes no)).execute condition
  | .loop whileTrue condition body =>
    (turn.push (.loopCondition whileTrue condition body 0)).execute condition
  | .each _ name words body =>
    ((turn.withStatus 0).push (.eachWord name (turn.context.fieldsOf words) body)).resume
  | .malformed line message => turn.stop line ("Syntax error: " ++ message)

/-- Executes a command, or first a script in its words. -/
def executeCommand (surroundings : Surroundings) (command : Command) (turn : Turn) : Turn :=
  match command.script? with
  | some (line, script) => turn.capture line script command
  | none =>
    let turn := turn.executeExpanded surroundings command
    turn.mapContext fun context => { context with substituted := none }

def resumeFrame (frame : Frame) (turn : Turn) : Turn :=
  let status := turn.context.status
  match frame with
  | .next command => turn.execute command
  | .ifSuccess command => if status = 0 then turn.execute command else turn.resume
  | .ifFailure command => if status = 0 then turn.resume else turn.execute command
  | .negate => (turn.withStatus (if status = 0 then 1 else 0)).resume
  | .branch yes no =>
    if status = 0 then turn.execute yes else (turn.withStatus 0).execute no
  | .loopCondition whileTrue condition body last =>
    if (status = 0) == whileTrue then
      (turn.push (.loopBody whileTrue condition body)).execute body
    else (turn.withStatus last).resume
  | .loopBody whileTrue condition body =>
    (turn.push (.loopCondition whileTrue condition body status)).execute condition
  | .eachWord _ [] _ => turn.resume
  | .eachWord name (word :: rest) body =>
    ((turn.mapContext fun context => context.assign name word).push
      (.eachWord name rest body)).execute body
  | .restore descriptors => (turn.withDescriptors descriptors).resume
  | .revert before =>
    (turn.mapContext fun context =>
      before.foldl (fun context entry => context.revert entry.1 entry.2) context).resume
  | .capture outer stream command =>
    let output := (turn.world.left stream).toOption.getD ""
    let text := String.ofList (output.toList.reverse.dropWhile (· = '\n')).reverse
    (turn.mapContext fun _ =>
      { outer with status := status, substituted := some status }).execute (command.fill text)
  | .finish => turn.exit status

end Turn

def Process.step (surroundings : Surroundings) (world : World) (process : Process) : Turn :=
  let turn := Turn.begin process world decisionTime
  match process.task, process.stack with
  | .execute command, _ => turn.executeCommand surroundings command
  | .await pids tells, _ => turn.endAwait surroundings pids tells
  | .resume, [] => turn.exit turn.context.status
  | .resume, frame :: rest => (turn.withStack rest).resumeFrame frame

end ProfilingSession.Shell
