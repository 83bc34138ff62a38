import Mathlib.Data.List.Basic
import ProfilingSession.CommandLine.Execution
import ProfilingSession.Session.Timeline

/-!
# The exit code after a session

A session that ended badly is told by the exit code 3, but its profile is collected before that. The
record does not matter, since a failure to write it is passed over. A failure to collect the profile
is not: it takes the place of the end of the session. `exitCode_of_bad_end` says that the exit code
is 3 unless there is a profile that cannot be moved, and 1 if there is.
-/

namespace ProfilingSession.CommandLine

open FileTree (Path)

/-- There is something at a path, and it cannot be moved to another one. -/
def Stuck (tree : FileTree) (source destination : Path) : Prop :=
  tree.hasNode source = true ∧ ∃ cause, tree.move source destination = .error cause

theorem exists_collect_eq_error_iff {tree : FileTree} {source destination : Path} :
    (∃ fault, collect source destination tree = .error fault) ↔
      Stuck tree source destination := by
  unfold collect Stuck
  split
  · next there =>
    rw [there]
    cases tree.move source destination <;> simp
  · next missing => simp [missing]

/-- The fault that a report tells, if its session ended badly. -/
def badEnd? (report : Report) : Option SessionFault :=
  match report.result with
  | .ok _ => none
  | .error fault => some fault

theorem exists_badEnd? {report : Report} (bad : report.state ≠ .succeeded) :
    ∃ fault, badEnd? report = some fault ∧ (CommandFault.session fault).isBadEnd = true := by
  unfold badEnd? Report.result
  cases state : report.state with
  | succeeded => exact absurd state bad
  | timedOut deadline => exact ⟨_, rfl, rfl⟩
  | orderViolation => exact ⟨_, rfl, rfl⟩
  | failed => exact ⟨_, rfl, rfl⟩

/-- The fault once the profile was to be collected: that of the collection, or else the one that was
there before. -/
def afterCollection (options : RunOptions) (ended : Option SessionFault) (tree : FileTree) :
    Option CommandFault :=
  match collect options.artifact options.outputPath tree with
  | .error fault => some (.collection fault)
  | .ok _ => ended.map CommandFault.session

theorem afterCollection_of_stuck {options : RunOptions} {tree : FileTree}
    (stuck : Stuck tree options.artifact options.outputPath) (ended : Option SessionFault) :
    ∃ fault, afterCollection options ended tree = some (.collection fault) := by
  obtain ⟨fault, failed⟩ := exists_collect_eq_error_iff.mpr stuck
  exact ⟨fault, by rw [afterCollection, failed]⟩

theorem afterCollection_of_not_stuck {options : RunOptions} {tree : FileTree}
    (free : ¬ Stuck tree options.artifact options.outputPath) (ended : Option SessionFault) :
    afterCollection options ended tree = ended.map CommandFault.session := by
  unfold afterCollection
  cases collected : collect options.artifact options.outputPath tree with
  | error fault => exact absurd (exists_collect_eq_error_iff.mp ⟨fault, collected⟩) free
  | ok _ => rfl

theorem CommandFault.exitCode_of_isBadEnd {fault : CommandFault} (h : fault.isBadEnd = true) :
    fault.exitCode = 3 := by
  rw [exitCode, if_pos h]

theorem CommandFault.exitCode_collection (fault : MoveFault) :
    (CommandFault.collection fault).exitCode = 1 := by
  have unsaid : (CommandFault.collection fault).saysMissingArgument = false := by
    change Text.occursIn "missing required argument".toList
      (Text.lower "Failed to collect profile").toList = false
    decide +kernel
  rw [exitCode, unsaid]
  rfl

namespace Execution

variable {σ : Type} {host : Host σ} {setting : Setting} {options : RunOptions} {plan : Plan}
variable {report : Report} {system : σ} {execution : Execution σ}

/-- What there is once the header was generated, if that is asked for. -/
def prepared (host : Host σ) (setting : Setting) (options : RunOptions) (system : σ) :
    Execution σ :=
  match options.headerRequest with
  | some request => (start system).generateHeader host setting request
  | none => start system

/-- The session of a plan, run for a command. -/
def session (host : Host σ) (setting : Setting) (plan : Plan) (system : σ) :
    Supervision.Outcome σ :=
  Supervision.run host setting.palette setting.owner (setting.draw plan.channels) plan system

/-- The system once it was tried to write the record of a session. -/
def recorded (host : Host σ) (options : RunOptions) (report : Report) (system : σ) : σ :=
  match (host.files system).writeText options.record report.record with
  | .ok files => host.withFiles files system
  | .error _ => system

/-- A command comes to run the session of a plan, and the session ends with a report. -/
structure Ends (host : Host σ) (setting : Setting) (options : RunOptions) (system : σ)
    (plan : Plan) (report : Report) : Prop where
  prepares : (prepared host setting options system).fault = none
  runs : options.skipRun = false
  plans : options.plan = .ok plan
  checks : (Preflight.check plan setting.quiet
    (host.files (prepared host setting options system).system)).2 = .ok ()
  reports : (session host setting plan (prepared host setting options system).system).result =
    .ok report

/-- The files as the collection of the profile finds them after a session. -/
def leftBehind (host : Host σ) (setting : Setting) (options : RunOptions) (system : σ)
    (plan : Plan) (report : Report) : FileTree :=
  host.files (recorded host options report
    (session host setting plan (prepared host setting options system).system).system)

@[simp]
theorem system_sayUnlessQuiet (output : Output) :
    (execution.sayUnlessQuiet setting output).system = execution.system := by
  unfold sayUnlessQuiet
  split <;> rfl

theorem system_writeRecord (execution : Execution σ) :
    (execution.writeRecord host options report).system =
      recorded host options report execution.system := by
  simp only [writeRecord, recorded, enter]
  cases (host.files execution.system).writeText options.record report.record <;> rfl

theorem fault_collectProfile (ended : Option SessionFault) (execution : Execution σ) :
    (execution.collectProfile host setting options ended).fault =
      afterCollection options ended (host.files execution.system) := by
  simp only [collectProfile, afterCollection, enter]
  cases collect options.artifact options.outputPath (host.files execution.system) with
  | error fault => rfl
  | ok answer =>
    obtain ⟨collected, files⟩ := answer
    cases collected <;> rfl

/-- After a session its profile is collected, whether or not it was recorded. -/
theorem fault_runPlan (execution : Execution σ)
    (reports : (session host setting plan execution.system).result = .ok report) :
    (execution.runPlan host setting options plan).fault =
      afterCollection options (badEnd? report) (host.files
        (recorded host options report (session host setting plan execution.system).system)) := by
  rw [session] at reports
  simp only [runPlan, system_sayUnlessQuiet, reports, fault_collectProfile, system_writeRecord]
  rfl

/-- A plan that passes its checks is run in the session that was begun, after the warnings. -/
theorem runSession_eq_runPlan (execution : Execution σ) (plans : options.plan = .ok plan)
    (checks : (Preflight.check plan setting.quiet (host.files execution.system)).2 = .ok ()) :
    ∃ warnings, execution.runSession host setting options =
      ((execution.enter .session).say warnings).runPlan host setting options plan := by
  obtain ⟨warnings, checked⟩ :
      ∃ warnings, Preflight.check plan setting.quiet (host.files execution.system) =
        (warnings, .ok ()) := ⟨_, Prod.ext rfl checks⟩
  exact ⟨warnings, by simp only [runSession, enter, plans, checked]⟩

theorem fault_runSession (execution : Execution σ) (plans : options.plan = .ok plan)
    (checks : (Preflight.check plan setting.quiet (host.files execution.system)).2 = .ok ())
    (reports : (session host setting plan execution.system).result = .ok report) :
    (execution.runSession host setting options).fault =
      afterCollection options (badEnd? report) (host.files
        (recorded host options report (session host setting plan execution.system).system)) := by
  -- Warnings are said, which leaves the system as it is.
  obtain ⟨warnings, passed⟩ := runSession_eq_runPlan execution plans checks
  rw [passed]
  exact fault_runPlan _ reports

theorem run_eq (host : Host σ) (setting : Setting) (options : RunOptions) (system : σ) :
    run host setting options system =
      (prepared host setting options system).runAfterHeader host setting options := rfl

/-- The fault of a command whose session ended with a report. -/
theorem Ends.fault_run (ends : Ends host setting options system plan report) :
    (run host setting options system).fault =
      afterCollection options (badEnd? report)
        (leftBehind host setting options system plan report) := by
  rw [run_eq, runAfterHeader, ends.prepares, ends.runs]
  exact fault_runSession _ ends.plans ends.checks ends.reports

theorem exitCode_of_fault {fault : CommandFault} (told : execution.fault = some fault) :
    execution.exitCode = fault.exitCode := by
  rw [exitCode, told]
  rfl

/-- A command whose session ended badly is told by the exit code 3, whether or not the session was
recorded, unless there is a profile that cannot be moved, and by the exit code 1 if there is. -/
theorem exitCode_of_bad_end (ends : Ends host setting options system plan report)
    (bad : report.state ≠ .succeeded) :
    let files := leftBehind host setting options system plan report
    let code := (run host setting options system).exitCode
    (code = 3 ↔ ¬ Stuck files options.artifact options.outputPath) ∧
      (code = 1 ↔ Stuck files options.artifact options.outputPath) := by
  intro files code
  obtain ⟨fault, ended, isBadEnd⟩ := exists_badEnd? bad
  have told := ends.fault_run
  rw [ended] at told
  by_cases stuck : Stuck files options.artifact options.outputPath
  · obtain ⟨fault', failed⟩ := afterCollection_of_stuck stuck (some fault)
    have masked : code = 1 :=
      (exitCode_of_fault (told.trans failed)).trans (CommandFault.exitCode_collection fault')
    simp [masked, stuck]
  · have kept := afterCollection_of_not_stuck stuck (some fault)
    have shown : code = 3 :=
      (exitCode_of_fault (told.trans kept)).trans (CommandFault.exitCode_of_isBadEnd isBadEnd)
    simp [shown, stuck]

/-- The words of a command whose session is over when its consumer ends, with a place for the
profile. -/
def earlyWords (output : Path) : List String :=
  ["run", "./p", "--consumer", "./c", "--channel-dir", "shm", "--warm-up", "5", "-o", output]

def earlyOptions (output : Path) : RunOptions where
  target := some "./p"
  profiler := .dependence
  threads := 1
  timeout := 7200
  drainGrace := 10
  readyTimeout := 30
  warmUp := some 5
  output := some output
  artifact := "deplog.txt"
  executable := none
  consumer := some "./c"
  installDirectory := none
  channelDirectory := "shm"
  logDirectory := "."
  record := "prompt.session.json"
  skipBuild := false
  skipRun := false
  configDirectory := none
  template := none
  header := "slamp_produce.h"
  profileArguments := ""
  producerArguments := []

def earlyPlan : Plan :=
  { Plan.standard .dependence "./c" "./p" with
    readiness := .warmUp (.ofMilliseconds 5), channels := .inDirectory "shm" }

def earlySetting : Setting := ⟨.plain, true, 1, Channels.inTurn⟩

/-- The consumer ends after twenty milliseconds with a failure, and the producer never does. There is
a profile already. -/
def earlyTimeline : Timeline :=
  ⟨⟨.directory 0o755 [("c", .file 0o755 ⟨#[]⟩), ("p", .file 0o755 ⟨#[]⟩), ("shm", .empty),
    ("deplog.txt", .file 0o644 ⟨#[]⟩)], []⟩, 0, none, some ⟨20000000, .ofCode 1⟩⟩

def earlyReport : Report :=
  ⟨0, .dependence, .orderViolation, some (.ofSignal 9), some (.ofCode 1), .ofMilliseconds 15⟩

theorem ends_early (output : Path) :
    Ends Timeline.host earlySetting (earlyOptions output) earlyTimeline earlyPlan earlyReport where
  prepares := rfl
  runs := rfl
  plans := rfl
  checks := by
    change (Preflight.check earlyPlan true earlyTimeline.files).2 = .ok ()
    decide +kernel
  reports := by
    change (session Timeline.host earlySetting earlyPlan earlyTimeline).result = .ok earlyReport
    decide +kernel

/-- Where the profile can be moved, the exit code tells that the consumer ended too early. -/
theorem exitCode_of_moved_profile :
    Invocation.parse [] (earlyWords "profile") = .ok ⟨.run (earlyOptions "profile"), false⟩ ∧
      Ends Timeline.host earlySetting (earlyOptions "profile") earlyTimeline earlyPlan
        earlyReport ∧
      earlyReport.state ≠ .succeeded ∧
      (run Timeline.host earlySetting (earlyOptions "profile") earlyTimeline).exitCode = 3 := by
  have ends := ends_early "profile"
  have bad : earlyReport.state ≠ .succeeded := by decide
  refine ⟨by decide +kernel, ends, bad, (exitCode_of_bad_end ends bad).1.mpr ?_⟩
  rintro ⟨-, cause, failed⟩
  have moved : ((leftBehind Timeline.host earlySetting (earlyOptions "profile") earlyTimeline
    earlyPlan earlyReport).move "deplog.txt" "profile").isOk = true := by decide +kernel
  rw [show (earlyOptions "profile").artifact = "deplog.txt" from rfl,
    show (earlyOptions "profile").outputPath = "profile" from rfl] at failed
  rw [failed] at moved
  cases moved

/-- Where it cannot be moved, for want of a directory, nothing in the exit code tells that. -/
theorem exitCode_of_unmovable_profile :
    Invocation.parse [] (earlyWords "out/profile") =
        .ok ⟨.run (earlyOptions "out/profile"), false⟩ ∧
      Ends Timeline.host earlySetting (earlyOptions "out/profile") earlyTimeline earlyPlan
        earlyReport ∧
      earlyReport.state = .orderViolation ∧
      (run Timeline.host earlySetting (earlyOptions "out/profile") earlyTimeline).exitCode = 1 :=
  ⟨by decide +kernel, ends_early "out/profile", rfl, by decide +kernel⟩

end Execution

end ProfilingSession.CommandLine
