import ProfilingSession.Collection
import ProfilingSession.CommandLine.Grammar
import ProfilingSession.Generation
import ProfilingSession.Session.Plan
import ProfilingSession.Text.Words

/-!
# The options of a session

What can be said about a session on the command line, and what follows from it: the programs to
run, the arguments of the producer, where the profile goes, what header to generate, and the plan.
-/

namespace ProfilingSession.CommandLine

open FileTree (Path)

structure RunOptions where
  /-- The producer, or the bitcode it was built from. -/
  target : Option Path
  profiler : Profiler
  threads : Nat
  /-- Times in seconds. -/
  timeout : Nat
  drainGrace : Nat
  readyTimeout : Nat
  /-- A time in milliseconds. -/
  warmUp : Option Nat
  output : Option Path
  artifact : Path
  /-- The producer, whatever the target is. -/
  executable : Option Path
  consumer : Option Path
  /-- Where the consumer is installed. -/
  installDirectory : Option Path
  channelDirectory : Path
  logDirectory : Path
  record : Path
  skipBuild : Bool
  skipRun : Bool
  /-- The directory of specifications. -/
  configDirectory : Option Path
  template : Option Path
  header : Path
  /-- Arguments of the producer in one text, for when none follow two dashes. -/
  profileArguments : String
  producerArguments : List String
  deriving DecidableEq, Repr

inductive MissingProgram where
  | producer
  | consumer
  deriving DecidableEq, Repr

def MissingProgram.message : MissingProgram → String
  | .producer => "Missing required argument: TARGET or --exe"
  | .consumer =>
    "Missing required argument: --consumer or SLAMP_INSTALL_DIR\n\n" ++
      "Point SLAMP_INSTALL_DIR at the profiling runtime installation."

/-- A text without another one at its end, if it ends in it. -/
def withoutEnd (ending s : String) : String :=
  if ending.toList.isSuffixOf s.toList then
    String.ofList (s.toList.take (s.toList.length - ending.toList.length))
  else s

/-- The producer that is built from a target: bitcode is built into an executable beside, and
anything else is the producer itself. -/
def builtFrom (target : Path) : Path :=
  if Path.extension? target = some "bc" then
    Path.join "." (withoutEnd ".named" ((Path.stem? target).getD "") ++ ".named.slamp.exe")
  else target

namespace RunOptions

def grammar : Grammar where
  options :=
    [⟨"module", some 'm', some .profiler⟩, ⟨"threads", some 't', some .threads⟩,
      ⟨"timeout", none, some .time⟩, ⟨"drain-grace", none, some .time⟩,
      ⟨"ready-timeout", none, some .time⟩, ⟨"warm-up", none, some .time⟩,
      ⟨"output", some 'o', some .path⟩, ⟨"artifact", none, some .path⟩,
      ⟨"exe", none, some .path⟩, ⟨"consumer", none, some .path⟩,
      ⟨"install-dir", none, some .path⟩, ⟨"channel-dir", none, some .path⟩,
      ⟨"log-dir", none, some .path⟩, ⟨"record", none, some .path⟩,
      ⟨"skip-build", none, none⟩, ⟨"skip-run", none, none⟩,
      ⟨"config-dir", none, some .path⟩, ⟨"template", none, some .path⟩,
      ⟨"header", none, some .path⟩, ⟨"profile-args", none, some .text⟩,
      ⟨"quiet", some 'q', none⟩]
  operand := some .path
  passesOn := true
  commands := []

/-- The options that are taken from the environment when they are not given, with the names of
their variables. -/
def fromEnvironment : List (String × String) :=
  [("install-dir", "SLAMP_INSTALL_DIR"), ("profile-args", "PROFILEARGS")]

/-- What has to hold between the options. -/
def check (given : Given) : Except UsageFault Unit :=
  if given.has "warm-up" && given.has "ready-timeout" then .error .conflict
  else if given.has "template" && !given.has "config-dir" then .error .missingArgument
  else if given.operand.isNone && !given.has "exe" then .error .missingArgument
  else .ok ()

/-- The options that were given, with those that were not as usual. -/
def ofGiven (given : Given) : RunOptions :=
  let path (name : String) (usual : Path) : Path := (given.value? name).getD usual
  let time (name : String) (usual : Nat) : Nat :=
    ((given.value? name).bind readTime).getD usual
  { target := given.operand
    profiler := ((given.value? "module").bind Profiler.ofName?).getD .dependence
    threads := ((given.value? "threads").bind readThreads).getD 1
    timeout := time "timeout" 7200
    drainGrace := time "drain-grace" 10
    readyTimeout := time "ready-timeout" 30
    warmUp := (given.value? "warm-up").bind readTime
    output := given.value? "output"
    artifact := path "artifact" Collected.standardArtifact
    executable := given.value? "exe"
    consumer := given.value? "consumer"
    installDirectory := given.value? "install-dir"
    channelDirectory := path "channel-dir" Channels.standardDirectory
    logDirectory := path "log-dir" "."
    record := path "record" "prompt.session.json"
    skipBuild := given.has "skip-build"
    skipRun := given.has "skip-run"
    configDirectory := given.value? "config-dir"
    template := given.value? "template"
    header := path "header" Generation.standardHeader
    profileArguments := (given.value? "profile-args").getD ""
    producerArguments := given.passedOn }

def producerPath (options : RunOptions) : Except MissingProgram Path :=
  match options.executable, options.target with
  | some executable, _ => .ok executable
  | none, some target => .ok (builtFrom target)
  | none, none => .error .producer

def consumerPath (options : RunOptions) : Except MissingProgram Path :=
  match options.consumer, options.installDirectory with
  | some consumer, _ => .ok consumer
  | none, some directory => .ok (Path.join directory "bin/consumer_custom")
  | none, none => .error .consumer

/-- The arguments of the producer: those after two dashes, or else the words of the text. -/
def argumentsOfProducer (options : RunOptions) : List String :=
  if options.producerArguments.isEmpty then Text.words options.profileArguments
  else options.producerArguments

def outputPath (options : RunOptions) : Path :=
  options.output.getD Collected.standardOutput

/-- The header to generate before the session, if there are specifications and it is not to be
skipped. -/
def headerRequest (options : RunOptions) : Option Generation.Request :=
  if options.skipBuild then none
  else options.configDirectory.map fun directory =>
    ⟨some options.profiler, directory, options.template, options.header⟩

def plan (options : RunOptions) : Except MissingProgram Plan := do
  let consumer ← options.consumerPath
  let producer ← options.producerPath
  return { Plan.standard options.profiler consumer producer with
    threads := options.threads
    timeout := .ofSeconds options.timeout
    drainGrace := .ofSeconds options.drainGrace
    readiness :=
      match options.warmUp with
      | some delay => .warmUp (.ofMilliseconds delay)
      | none => .published (.ofSeconds options.readyTimeout)
    producerArguments := options.argumentsOfProducer
    logDirectory := options.logDirectory
    channels := .inDirectory options.channelDirectory }

end RunOptions

end ProfilingSession.CommandLine
