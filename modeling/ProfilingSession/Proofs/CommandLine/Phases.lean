import ProfilingSession.Proofs.CommandLine.Verdict
import ProfilingSession.Proofs.Session.StartUp

/-!
# Which stages a command goes through

A stage is begun only once the one before it has succeeded: without the header nothing else is done,
and a session that comes to no end is neither recorded nor is its profile collected. Any end of a
session is recorded, as far as that goes, and its profile is collected. `Staged` says so, with what
is left of the system each time, and `exitCode_eq_zero_iff` says that the exit code is zero just if
nothing that was asked for went wrong.
-/

namespace ProfilingSession

namespace Supervision

variable {σ : Type} {host : Host σ} {plan : Plan} {slot : Slot} {state after : Supervision σ}

def BothWell (report : Report) : Prop :=
  ∃ producer consumer, report.producer = some producer ∧ producer.code = some 0 ∧
    report.consumer = some consumer ∧ consumer.code = some 0

theorem exists_of_succeeded {exit : Option Exit} (h : succeeded exit = true) :
    ∃ ended, exit = some ended ∧ ended.code = some 0 := by
  cases exit with
  | none => cases h
  | some ended => exact ⟨ended, rfl, by simpa [succeeded, Exit.isSuccess] using h⟩

theorem bothWell_superviseBoth {launched : Duration} {report : Report}
    (reported : (state.superviseBoth host plan slot launched).1 = .ok report)
    (good : report.state = .succeeded) : BothWell report := by
  cases h : (state.note (.entered .running)).awaitEnd host plan with
  | mk outcome after =>
    cases outcome with
    | error cause =>
      rw [superviseBoth_of_error plan slot launched h] at reported
      cases reported
    | ok ended =>
      rw [superviseBoth_eq_report plan slot launched h] at reported
      cases reported
      obtain rfl : ended = .succeeded := good
      have verdict := verdict_of_awaitEnd h
      have both : succeeded after.producer = true ∧ succeeded after.consumer = true := by
        simpa [verdict, Supervision.verdict] using verdict
      obtain ⟨producer, ended, zero⟩ := exists_of_succeeded both.1
      obtain ⟨consumer, ended', zero'⟩ := exists_of_succeeded both.2
      exact ⟨producer, consumer, by simpa [report, note] using ended, zero,
        by simpa [report, note] using ended', zero'⟩

/-- A session only succeeds if both processes ended with code zero. -/
theorem bothWell_supervise {report : Report}
    (reported : (state.supervise host plan slot).1 = .ok report)
    (good : report.state = .succeeded) : BothWell report := by
  unfold supervise at reported
  split at reported
  · cases reported
  · split at reported
    · cases reported
    · cases reported
      cases good
    · unfold superviseProducer at reported
      split at reported
      · cases reported
      · exact bothWell_superviseBoth reported good

theorem bothWell_run {palette : Palette} {owner : Nat} {candidates : Nat → Nat} {system : σ}
    {report : Report}
    (reported : (run host palette owner candidates plan system).result = .ok report)
    (good : report.state = .succeeded) : BothWell report := by
  unfold run at reported
  split at reported
  · cases reported
  · exact bothWell_supervise reported good

end Supervision

namespace CommandLine

theorem CommandFault.exitCode_ne_zero (fault : CommandFault) : fault.exitCode ≠ 0 := by
  unfold exitCode
  split
  · decide
  · split <;> decide

theorem badEnd?_eq_none_iff {report : Report} :
    badEnd? report = none ↔ report.state = .succeeded := by
  unfold badEnd? Report.result
  cases report.state <;> simp

/-- There is no profile, or it can be moved. -/
def CollectsWell (options : RunOptions) (tree : FileTree) : Prop :=
  ∃ answer, collect options.artifact options.outputPath tree = .ok answer

theorem afterCollection_eq_none_iff {options : RunOptions} {ended : Option SessionFault}
    {tree : FileTree} :
    afterCollection options ended tree = none ↔ CollectsWell options tree ∧ ended = none := by
  unfold afterCollection CollectsWell
  cases collect options.artifact options.outputPath tree <;> simp

namespace Execution

variable {σ : Type} {host : Host σ} {setting : Setting} {options : RunOptions} {plan : Plan}
variable {report : Report} {system : σ} {execution : Execution σ}

theorem exitCode_eq_zero_iff_fault : execution.exitCode = 0 ↔ execution.fault = none := by
  unfold exitCode
  cases execution.fault with
  | none => simp
  | some fault => simp [fault.exitCode_ne_zero]

/-- The header is not asked for, or can be generated. -/
def HeaderWell (host : Host σ) (options : RunOptions) (system : σ) : Prop :=
  ∀ request, options.headerRequest = some request →
    ∃ answer, Generation.generate request (host.files system) = .ok answer

/-- The stages before the session. -/
def headerStages (options : RunOptions) : List Stage :=
  if options.headerRequest.isSome then [.header] else []

/-- The system once it was tried to collect the profile. -/
def collected (host : Host σ) (options : RunOptions) (system : σ) : σ :=
  match collect options.artifact options.outputPath (host.files system) with
  | .ok (.moved _, files) => host.withFiles files system
  | _ => system

@[simp]
theorem stages_sayUnlessQuiet (output : Output) :
    (execution.sayUnlessQuiet setting output).stages = execution.stages := by
  unfold sayUnlessQuiet
  split <;> rfl

@[simp]
theorem fault_sayUnlessQuiet (output : Output) :
    (execution.sayUnlessQuiet setting output).fault = execution.fault := by
  unfold sayUnlessQuiet
  split <;> rfl

theorem prepared_of_error {request : Generation.Request} {fault : Generation.Fault}
    (asked : options.headerRequest = some request)
    (failed : Generation.generate request (host.files system) = .error fault) :
    prepared host setting options system = ⟨.empty, [.header], some (.header fault), system⟩ := by
  have failed' : Generation.generate request (host.files ((start system).enter .header).system) =
      .error fault := failed
  simp only [prepared, asked, generateHeader, failed']
  rfl

theorem fault_prepared_iff :
    (prepared host setting options system).fault = none ↔ HeaderWell host options system := by
  unfold HeaderWell
  cases asked : options.headerRequest with
  | none => simp [prepared, asked, start]
  | some request =>
    cases generated : Generation.generate request (host.files system) with
    | error fault => simp [prepared_of_error asked generated, generated]
    | ok answer =>
      obtain ⟨count, files⟩ := answer
      have generated' : Generation.generate request
          (host.files ((start system).enter .header).system) = .ok (count, files) := generated
      simp only [prepared, asked, generateHeader, generated', fault_sayUnlessQuiet]
      simp [withFiles, enter, start, generated]

theorem stages_generateHeader (request : Generation.Request) (execution : Execution σ) :
    (execution.generateHeader host setting request).stages = execution.stages ++ [.header] := by
  simp only [generateHeader, enter]
  cases Generation.generate request (host.files execution.system) with
  | error fault => rfl
  | ok answer => simp [withFiles]

theorem stages_prepared : (prepared host setting options system).stages = headerStages options := by
  unfold prepared headerStages
  cases options.headerRequest with
  | none => rfl
  | some request => exact stages_generateHeader request (start system)

theorem stages_writeRecord (execution : Execution σ) :
    (execution.writeRecord host options report).stages = execution.stages ++ [.record] := by
  simp only [writeRecord, enter]
  cases (host.files execution.system).writeText options.record report.record <;> rfl

theorem stages_collectProfile (ended : Option SessionFault) (execution : Execution σ) :
    (execution.collectProfile host setting options ended).stages =
      execution.stages ++ [.collection] := by
  simp only [collectProfile, enter]
  cases collect options.artifact options.outputPath (host.files execution.system) with
  | error fault => rfl
  | ok answer =>
    obtain ⟨moved | _, files⟩ := answer <;> simp [withFiles]

theorem system_collectProfile (ended : Option SessionFault) (execution : Execution σ) :
    (execution.collectProfile host setting options ended).system =
      collected host options execution.system := by
  simp only [collectProfile, collected, enter]
  cases collect options.artifact options.outputPath (host.files execution.system) with
  | error fault => rfl
  | ok answer =>
    obtain ⟨moved | _, files⟩ := answer <;> simp [withFiles]

/-- The session of a command came to no end: nothing was recorded or collected after it. -/
structure StopsInSession (options : RunOptions) (execution : Execution σ) (fault : CommandFault)
    (left : σ) : Prop where
  stages : execution.stages = headerStages options ++ [.session]
  fault : execution.fault = some fault
  system : execution.system = left

/-- How the stages of a command depend on each other. -/
structure Staged (host : Host σ) (setting : Setting) (options : RunOptions) (system : σ)
    (execution : Execution σ) : Prop where
  /-- Without the header nothing is done. -/
  header : ∀ request fault, options.headerRequest = some request →
    Generation.generate request (host.files system) = .error fault →
    execution = ⟨.empty, [.header], some (.header fault), system⟩
  skipped : HeaderWell host options system → options.skipRun = true →
    execution.stages = headerStages options ++ [.collection] ∧
    execution.system = collected host options (prepared host setting options system).system
  plan : HeaderWell host options system → options.skipRun = false →
    ∀ missing, options.plan = .error missing →
    StopsInSession options execution (.program missing)
      (prepared host setting options system).system
  preflight : HeaderWell host options system → options.skipRun = false →
    ∀ plan fault, options.plan = .ok plan →
    (Preflight.check plan setting.quiet
      (host.files (prepared host setting options system).system)).2 = .error fault →
    StopsInSession options execution (.preflight fault)
      (prepared host setting options system).system
  /-- The session comes to no end for want of a channel, since a process cannot be launched or
  waited for, or since the consumer is not ready in time. -/
  unended : HeaderWell host options system → options.skipRun = false →
    ∀ plan fault, options.plan = .ok plan →
    (Preflight.check plan setting.quiet
      (host.files (prepared host setting options system).system)).2 = .ok () →
    (session host setting plan (prepared host setting options system).system).result =
      .error fault →
    StopsInSession options execution (.session fault)
      (session host setting plan (prepared host setting options system).system).system
  /-- Any end of the session is recorded, and the profile is collected. -/
  ended : ∀ plan report, Ends host setting options system plan report →
    execution.stages = headerStages options ++ [.session, .record, .collection] ∧
    execution.system = collected host options (recorded host options report
      (session host setting plan (prepared host setting options system).system).system)

theorem runPlan_of_error (options : RunOptions) (execution : Execution σ) {fault : SessionFault}
    (failed : (session host setting plan execution.system).result = .error fault) :
    (execution.runPlan host setting options plan).stages = execution.stages ∧
      (execution.runPlan host setting options plan).fault = some (.session fault) ∧
      (execution.runPlan host setting options plan).system =
        (session host setting plan execution.system).system := by
  rw [session] at failed ⊢
  simp only [runPlan, system_sayUnlessQuiet, failed]
  simp [fail, say]

theorem runPlan_of_ok (options : RunOptions) (execution : Execution σ)
    (ok : (session host setting plan execution.system).result = .ok report) :
    (execution.runPlan host setting options plan).stages =
        execution.stages ++ [.record, .collection] ∧
      (execution.runPlan host setting options plan).system =
        collected host options (recorded host options report
          (session host setting plan execution.system).system) := by
  rw [session] at ok ⊢
  simp only [runPlan, system_sayUnlessQuiet, ok, stages_collectProfile, stages_writeRecord,
    system_collectProfile, system_writeRecord]
  simp [say]

/-- Once the header is there, the session is run unless it is to be skipped. -/
theorem run_of_headerWell (well : HeaderWell host options system)
    (runs : options.skipRun = false) :
    run host setting options system =
      (prepared host setting options system).runSession host setting options := by
  rw [run_eq, runAfterHeader, fault_prepared_iff.mpr well, runs]
  rfl

theorem run_of_skipRun (well : HeaderWell host options system) (skips : options.skipRun = true) :
    run host setting options system =
      ((prepared host setting options system).sayUnlessQuiet setting
        (.line "skipping run")).collectProfile host setting options none := by
  rw [run_eq, runAfterHeader, fault_prepared_iff.mpr well, skips]
  rfl

theorem staged_run (host : Host σ) (setting : Setting) (options : RunOptions) (system : σ) :
    Staged host setting options system (run host setting options system) where
  header request fault asked failed := by
    rw [run_eq, prepared_of_error asked failed]
    rfl
  skipped well skips := by
    rw [run_of_skipRun well skips, stages_collectProfile, system_collectProfile]
    simp [stages_prepared]
  plan well runs missing unplanned := by
    rw [run_of_headerWell well runs]
    simp only [runSession, unplanned]
    exact ⟨by simp [fail, enter, stages_prepared], rfl, rfl⟩
  preflight well runs plan fault plans failed := by
    obtain ⟨warnings, checked⟩ : ∃ warnings, Preflight.check plan setting.quiet
        (host.files (prepared host setting options system).system) = (warnings, .error fault) :=
      ⟨_, Prod.ext rfl failed⟩
    rw [run_of_headerWell well runs]
    simp only [runSession, enter, plans, checked]
    exact ⟨by simp [fail, say, stages_prepared], rfl, rfl⟩
  unended well runs plan fault plans checks failed := by
    rw [run_of_headerWell well runs]
    obtain ⟨warnings, passed⟩ := runSession_eq_runPlan _ plans checks
    rw [passed]
    obtain ⟨stages, told, left⟩ := runPlan_of_error options
      (((prepared host setting options system).enter .session).say warnings) failed
    exact ⟨by rw [stages]; simp [say, enter, stages_prepared], told, left⟩
  ended plan report ends := by
    rw [run_of_headerWell (fault_prepared_iff.mp ends.prepares) ends.runs]
    obtain ⟨warnings, passed⟩ := runSession_eq_runPlan _ ends.plans ends.checks
    rw [passed]
    obtain ⟨stages, left⟩ := runPlan_of_ok options
      (((prepared host setting options system).enter .session).say warnings) ends.reports
    exact ⟨by rw [stages]; simp [say, enter, stages_prepared], left⟩

theorem fault_run_of_skipRun (well : HeaderWell host options system)
    (skips : options.skipRun = true) :
    (run host setting options system).fault = none ↔
      CollectsWell options (host.files (prepared host setting options system).system) := by
  rw [run_of_skipRun well skips, fault_collectProfile, system_sayUnlessQuiet,
    afterCollection_eq_none_iff]
  simp

/-- A command that runs its session has no fault if the session succeeded and its profile was
collected. -/
theorem fault_run_of_runs (well : HeaderWell host options system)
    (runs : options.skipRun = false) :
    (run host setting options system).fault = none ↔
      ∃ plan report, Ends host setting options system plan report ∧
        report.state = .succeeded ∧
        CollectsWell options (leftBehind host setting options system plan report) := by
  have staged := staged_run host setting options system
  constructor
  · intro faultless
    have stopped {fault : CommandFault} {left : σ}
        (stops : StopsInSession options (run host setting options system) fault left) : False := by
      have told := stops.fault
      rw [faultless] at told
      cases told
    cases plans : options.plan with
    | error missing => exact (stopped (staged.plan well runs missing plans)).elim
    | ok plan =>
      cases checks : (Preflight.check plan setting.quiet
          (host.files (prepared host setting options system).system)).2 with
      | error fault => exact (stopped (staged.preflight well runs plan fault plans checks)).elim
      | ok =>
        cases reports :
            (session host setting plan (prepared host setting options system).system).result with
        | error fault =>
          exact (stopped (staged.unended well runs plan fault plans checks reports)).elim
        | ok report =>
          have ends : Ends host setting options system plan report :=
            ⟨fault_prepared_iff.mpr well, runs, plans, checks, reports⟩
          rw [ends.fault_run, afterCollection_eq_none_iff, badEnd?_eq_none_iff] at faultless
          exact ⟨plan, report, ends, faultless.2, faultless.1⟩
  · rintro ⟨plan, report, ends, good, collects⟩
    rw [ends.fault_run, afterCollection_eq_none_iff, badEnd?_eq_none_iff]
    exact ⟨collects, good⟩

theorem exitCode_run_eq_zero_iff (host : Host σ) (setting : Setting) (options : RunOptions)
    (system : σ) :
    (run host setting options system).exitCode = 0 ↔
      HeaderWell host options system ∧
        (options.skipRun = true ∧
            CollectsWell options (host.files (prepared host setting options system).system) ∨
          ∃ plan report, Ends host setting options system plan report ∧
            report.state = .succeeded ∧
            CollectsWell options (leftBehind host setting options system plan report)) := by
  rw [exitCode_eq_zero_iff_fault]
  by_cases well : HeaderWell host options system
  · cases skips : options.skipRun with
    | true =>
      rw [fault_run_of_skipRun well skips]
      have never : ¬ ∃ plan report, Ends host setting options system plan report ∧
          report.state = .succeeded ∧
          CollectsWell options (leftBehind host setting options system plan report) := by
        rintro ⟨plan, report, ends, -⟩
        cases skips.symm.trans ends.runs
      simp [well, never]
    | false =>
      rw [fault_run_of_runs well skips]
      simp [well]
  · simp only [well, false_and, iff_false]
    rw [run_eq, runAfterHeader]
    cases told : (prepared host setting options system).fault with
    | none => exact absurd (fault_prepared_iff.mp told) well
    | some fault => simp [told]

/-- The exit code of a command that runs a session is zero just if the header was generated, if that
was asked for, and if the session was to be skipped, or was planned, checked and run with success,
which takes both processes to end with code zero, and if what was left behind could be collected.
Its stages are begun in turn: nothing comes after a header that cannot be generated, nothing is
recorded or collected after a session that comes to no end, and any end of a session is recorded and
its profile is collected. -/
theorem execute_staged (host : Host σ) (setting : Setting) (options : RunOptions) (system : σ) :
    let execution := execute host setting (.run options) system
    (execution.exitCode = 0 ↔
      HeaderWell host options system ∧
        (options.skipRun = true ∧
            CollectsWell options (host.files (prepared host setting options system).system) ∨
          ∃ plan report, Ends host setting options system plan report ∧
            report.state = .succeeded ∧ Supervision.BothWell report ∧
            CollectsWell options (leftBehind host setting options system plan report))) ∧
      Staged host setting options system execution := by
  intro execution
  refine ⟨?_, staged_run host setting options system⟩
  have code : execution.exitCode = 0 ↔ _ := exitCode_run_eq_zero_iff host setting options system
  rw [code]
  refine and_congr_right fun _ => or_congr_right ?_
  constructor
  · rintro ⟨plan, report, ends, good, collects⟩
    exact ⟨plan, report, ends, good, Supervision.bothWell_run ends.reports good, collects⟩
  · rintro ⟨plan, report, ends, good, -, collects⟩
    exact ⟨plan, report, ends, good, collects⟩

end Execution

end CommandLine

end ProfilingSession
