import ProfilingSession.CommandLine.Invocation
import ProfilingSession.Preflight
import ProfilingSession.Session.Supervision

/-!
# Executing commands

A command to run a session goes through stages, each of which has to succeed for the next one to
be begun: the header, the session, the record of it, and the collection of the profile. A session
that ends badly is an exception: its end is recorded, and what the consumer left behind is
collected, before the failure is told.

`execute` gives what was said, the stages that were begun and the fault, if there was one, on any
host. `exitCode` tells apart sessions that ended badly, usage that is wrong, and all else.
-/

namespace ProfilingSession.CommandLine

inductive CommandFault where
  | header (fault : Generation.Fault)
  | program (missing : MissingProgram)
  | preflight (fault : Preflight.Fault)
  | session (fault : SessionFault)
  | collection (fault : MoveFault)
  deriving DecidableEq, Repr

namespace CommandFault

/-- The messages of a fault and of what caused it, outermost first. -/
def chain : CommandFault → List String
  | .header fault => fault.chain
  | .program missing => [missing.message]
  | .preflight fault => fault.chain
  | .session fault => fault.message :: fault.causes
  | .collection fault => ["Failed to collect profile", fault.message, fault.cause.message]

def saysMissingArgument (fault : CommandFault) : Bool :=
  Text.occursIn "missing required argument".toList
    (Text.lower (fault.chain.headD "")).toList

/-- Whether a session ended badly. -/
def isBadEnd : CommandFault → Bool
  | .session (.orderViolation _) => true
  | .session (.timedOut ..) => true
  | .session (.nonZeroExit ..) => true
  | _ => false

def exitCode (fault : CommandFault) : Nat :=
  if fault.isBadEnd then 3 else if fault.saysMissingArgument then 2 else 1

end CommandFault

inductive Stage where
  | header
  | session
  | record
  | collection
  deriving DecidableEq, Repr

/-- What there is after some stages of a command. -/
structure Execution (σ : Type) where
  said : Output
  /-- The stages that were begun, in order. -/
  stages : List Stage
  fault : Option CommandFault
  system : σ

/-- What commands need to know about their surroundings. -/
structure Setting where
  palette : Palette
  quiet : Bool
  /-- The process that owns the markers it makes. -/
  owner : Nat
  /-- The candidates that are drawn from channels. -/
  draw : Channels → Nat → Nat

namespace Execution

variable {σ : Type}

def start (system : σ) : Execution σ :=
  ⟨.empty, [], none, system⟩

def enter (stage : Stage) (execution : Execution σ) : Execution σ :=
  { execution with stages := execution.stages ++ [stage] }

def say (output : Output) (execution : Execution σ) : Execution σ :=
  { execution with said := execution.said ++ output }

def sayUnlessQuiet (setting : Setting) (output : Output) (execution : Execution σ) :
    Execution σ :=
  if setting.quiet then execution else execution.say output

def fail (fault : CommandFault) (execution : Execution σ) : Execution σ :=
  { execution with fault := some fault }

def withFiles (host : Host σ) (files : FileTree) (execution : Execution σ) : Execution σ :=
  { execution with system := host.withFiles files execution.system }

def generateHeader (host : Host σ) (setting : Setting) (request : Generation.Request)
    (execution : Execution σ) : Execution σ :=
  let execution := execution.enter .header
  match Generation.generate request (host.files execution.system) with
  | .error fault => execution.fail (.header fault)
  | .ok (count, files) =>
    (execution.withFiles host files).sayUnlessQuiet setting
      (Status.info setting.palette "Generated"
        (toString count ++ " declarations in " ++ request.output))

/-- Collects the profile; afterwards the fault of the session counts, if there was one. -/
def collectProfile (host : Host σ) (setting : Setting) (options : RunOptions)
    (ended : Option SessionFault) (execution : Execution σ) : Execution σ :=
  let execution := execution.enter .collection
  let finish (execution : Execution σ) : Execution σ :=
    { execution with fault := ended.map CommandFault.session }
  match collect options.artifact options.outputPath (host.files execution.system) with
  | .error fault => execution.fail (.collection fault)
  | .ok (.moved path, files) =>
    finish ((execution.withFiles host files).sayUnlessQuiet setting (.line ("saved: " ++ path)))
  | .ok (.missing, _) =>
    finish (execution.sayUnlessQuiet setting
      (.line ("no " ++ options.artifact ++ " produced by this module")))

/-- Writes the record of a session; it does not matter if that fails. -/
def writeRecord (host : Host σ) (options : RunOptions) (report : Report)
    (execution : Execution σ) : Execution σ :=
  let execution := execution.enter .record
  match (host.files execution.system).writeText options.record report.record with
  | .ok files => execution.withFiles host files
  | .error _ => execution

def version : String := "0.1.0"

/-- What is said before a session. -/
def banner (plan : Plan) : Output :=
  .line ("prompt v" ++ version) ++
  .line ("module: " ++ plan.profiler.name ++ " (consumer index " ++
    toString plan.profiler.index ++ ")") ++
  .line ("producer: " ++ plan.producer) ++
  .line ("consumer: " ++ plan.consumer)

def runPlan (host : Host σ) (setting : Setting) (options : RunOptions) (plan : Plan)
    (execution : Execution σ) : Execution σ :=
  let execution := execution.sayUnlessQuiet setting (banner plan)
  let outcome :=
    Supervision.run host setting.palette setting.owner (setting.draw plan.channels) plan
      execution.system
  let execution := { execution.say outcome.said with system := outcome.system }
  match outcome.result with
  | .error fault => execution.fail (.session fault)
  | .ok report =>
    let ended :=
      match report.result with
      | .ok _ => none
      | .error fault => some fault
    ((execution.say (Status.summary setting.palette report)).writeRecord host options
      report).collectProfile host setting options ended

def runSession (host : Host σ) (setting : Setting) (options : RunOptions)
    (execution : Execution σ) : Execution σ :=
  let execution := execution.enter .session
  match options.plan with
  | .error missing => execution.fail (.program missing)
  | .ok plan =>
    match Preflight.check plan setting.quiet (host.files execution.system) with
    | (warnings, .error fault) => (execution.say warnings).fail (.preflight fault)
    | (warnings, .ok ()) => (execution.say warnings).runPlan host setting options plan

/-- Runs the session that options ask for and collects the profile, or only the latter. -/
def runAfterHeader (host : Host σ) (setting : Setting) (options : RunOptions)
    (execution : Execution σ) : Execution σ :=
  if execution.fault.isSome then execution
  else if options.skipRun then
    (execution.sayUnlessQuiet setting (.line "skipping run")).collectProfile host setting options
      none
  else execution.runSession host setting options

/-- Goes through all stages that options ask for. -/
def run (host : Host σ) (setting : Setting) (options : RunOptions) (system : σ) : Execution σ :=
  let execution := start system
  let execution :=
    match options.headerRequest with
    | some request => execution.generateHeader host setting request
    | none => execution
  execution.runAfterHeader host setting options

def execute (host : Host σ) (setting : Setting) (command : Command) (system : σ) : Execution σ :=
  match command with
  | .run options => run host setting options system
  | .generate request => (start system).generateHeader host setting request

def exitCode (execution : Execution σ) : Nat :=
  execution.fault.elim 0 CommandFault.exitCode

/-- All that a command prints, with the fault at the end. -/
def output (palette : Palette) (execution : Execution σ) : Output :=
  match execution.fault with
  | none => execution.said
  | some fault => execution.said ++ Status.failure palette "error" (chainText fault.chain)

end Execution

/-- Labels are in colour unless the environment asks for none. -/
def Environment.palette (environment : Environment) : Palette :=
  if (environment.value? "NO_COLOR").getD "" = "" then .coloured else .plain

end ProfilingSession.CommandLine
