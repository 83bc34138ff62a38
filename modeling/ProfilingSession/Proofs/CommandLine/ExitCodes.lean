import ProfilingSession.Proofs.CommandLine.Phases
import ProfilingSession.Proofs.CommandLine.Quoting
import ProfilingSession.Proofs.Declaration.Foreign

/-!
# What the exit code tells

The exit code tells a session that ended badly, wrong usage, and all else apart. Wrong usage is known
by a phrase in the message, so that a fault of another kind is taken for wrong usage if its message
quotes a path that has the phrase (`Execution.exitCode_execute`). Only then do the paths matter.
-/

namespace ProfilingSession

open FileTree (Path)

namespace Generation

variable {request : Generation.Request} {tree : FileTree}

/-- What was loaded can be declared. -/
theorem declarations_ne_undeclarable (problem : Specification.Problem) :
    declarations request tree ≠ .error (.undeclarable problem) := by
  intro failed
  unfold declarations at failed
  split at failed
  · rcases bind_eq_error_iff.mp failed with unread | ⟨catalog, -, failed⟩
    · obtain ⟨_, -, ⟨⟩⟩ := mapError_eq_error_iff.mp unread
    cases asked : request.profiler with
    | none =>
      rw [asked] at failed
      cases failed
    | some profiler =>
      rw [asked] at failed
      rcases bind_eq_error_iff.mp failed with unread | ⟨selection, loads, undeclared⟩
      · obtain ⟨_, -, ⟨⟩⟩ := mapError_eq_error_iff.mp (mapM_some_eq_error_iff.mp unread)
      · obtain ⟨loaded, load, rfl⟩ := mapM_some_eq_ok_iff.mp loads
        obtain ⟨written, -, read⟩ := bind_eq_ok_iff.mp (mapError_eq_ok_iff.mp load)
        obtain ⟨declarations, declared⟩ :=
          Declaration.exists_declare_of_covers (Declaration.covers_of_ofDocument read)
        rw [declared] at undeclared
        cases undeclared
  · cases failed

/-- No header is missing since what was read for it cannot be declared. -/
theorem generate_ne_undeclarable (problem : Specification.Problem) :
    generate request tree ≠ .error (.undeclarable problem) := by
  intro failed
  rcases bind_eq_error_iff.mp failed with failed | ⟨⟨text, count⟩, -, failed⟩
  · rcases bind_eq_error_iff.mp failed with failed | ⟨declared, -, failed⟩
    · exact declarations_ne_undeclarable problem failed
    · rcases bind_eq_error_iff.mp failed with failed | ⟨prelude, -, failed⟩
      · unfold preludeOf at failed
        cases asked : request.template with
        | none =>
          rw [asked] at failed
          cases failed
        | some path =>
          rw [asked] at failed
          obtain ⟨_, -, ⟨⟩⟩ := mapError_eq_error_iff.mp (mapM_some_eq_error_iff.mp failed)
      · cases failed
  · rcases bind_eq_error_iff.mp failed with failed | ⟨tree, -, failed⟩
    · obtain ⟨_, -, ⟨⟩⟩ := mapError_eq_error_iff.mp failed
    · cases failed

end Generation

namespace CommandLine

namespace CommandFault

variable {fault : CommandFault}

theorem quoted_of_isBadEnd (bad : fault.isBadEnd = true) : fault.quoted = [] := by
  cases fault with
  | session fault =>
    cases fault with
    | orderViolation => rfl
    | timedOut => rfl
    | nonZeroExit => rfl
    | _ => cases bad
  | _ => cases bad

theorem exitCode_of_saysMissing (unended : fault.isBadEnd = false)
    (found : SaysMissing (fault.chain.headD "")) : fault.exitCode = 2 := by
  rw [exitCode, unended, saysMissingArgument_eq_true_iff.mpr found]
  rfl

theorem exitCode_of_not_saysMissing (unended : fault.isBadEnd = false)
    (absent : ¬ SaysMissing (fault.chain.headD "")) : fault.exitCode = 1 := by
  rw [exitCode, unended, Bool.eq_false_iff.mpr (mt saysMissingArgument_eq_true_iff.mp absent)]
  rfl

end CommandFault

namespace Execution

variable {σ : Type} {host : Host σ} {setting : Setting} {options : RunOptions} {plan : Plan}
variable {report : Report} {system : σ} {execution : Execution σ}

theorem exists_generate_of_generateHeader {request : Generation.Request} {fault : CommandFault}
    (told : ((start system).generateHeader host setting request).fault = some fault) :
    ∃ cause, Generation.generate request (host.files system) = .error cause ∧
      fault = .header cause := by
  cases generated : Generation.generate request (host.files system) with
  | error cause =>
    have generated' : Generation.generate request
        (host.files ((start system).enter .header).system) = .error cause := generated
    simp only [generateHeader, generated'] at told
    exact ⟨cause, rfl, (Option.some.inj told).symm⟩
  | ok answer =>
    obtain ⟨count, files⟩ := answer
    have generated' : Generation.generate request
        (host.files ((start system).enter .header).system) = .ok (count, files) := generated
    simp only [generateHeader, generated', fault_sayUnlessQuiet] at told
    cases told

/-- The kinds of faults that there are once the header was generated. -/
theorem ne_header_of_headerWell {cause : Generation.Fault} (well : HeaderWell host options system) :
    (run host setting options system).fault ≠ some (.header cause) := by
  have collection {ended : Option SessionFault} {tree : FileTree} :
      afterCollection options ended tree ≠ some (.header cause) := by
    unfold afterCollection
    cases collect options.artifact options.outputPath tree <;> cases ended <;> nofun
  cases skips : options.skipRun with
  | true =>
    rw [run_of_skipRun well skips, fault_collectProfile]
    exact collection
  | false =>
    have staged := staged_run host setting options system
    cases plans : options.plan with
    | error missing =>
      rw [(staged.plan well skips missing plans).fault]
      nofun
    | ok plan =>
      cases checks : (Preflight.check plan setting.quiet
          (host.files (prepared host setting options system).system)).2 with
      | error fault =>
        rw [(staged.preflight well skips plan fault plans checks).fault]
        nofun
      | ok =>
        cases reports :
            (session host setting plan (prepared host setting options system).system).result with
        | error fault =>
          rw [(staged.unended well skips plan fault plans checks reports).fault]
          nofun
        | ok report =>
          have ends : Ends host setting options system plan report :=
            ⟨fault_prepared_iff.mpr well, skips, plans, checks, reports⟩
          rw [ends.fault_run]
          exact collection

/-- A fault of generation comes from there. -/
theorem exists_generate_of_fault {command : Command} {cause : Generation.Fault}
    (told : (execute host setting command system).fault = some (.header cause)) :
    ∃ request, Generation.generate request (host.files system) = .error cause := by
  cases command with
  | generate request =>
    obtain ⟨_, failed, same⟩ := exists_generate_of_generateHeader told
    cases same
    exact ⟨request, failed⟩
  | run options =>
    change (run host setting options system).fault = _ at told
    by_cases well : HeaderWell host options system
    · exact absurd told (ne_header_of_headerWell well)
    · have faulty : (prepared host setting options system).fault.isSome = true :=
        Option.isSome_iff_ne_none.mpr fun none' => well (fault_prepared_iff.mp none')
      rw [run_eq, runAfterHeader, if_pos faulty] at told
      unfold prepared at told
      split at told
      · next request asked =>
        obtain ⟨_, failed, same⟩ := exists_generate_of_generateHeader told
        cases same
        exact ⟨request, failed⟩
      · cases told

theorem fault_execute_ne_undeclarable {command : Command} (problem : Specification.Problem) :
    (execute host setting command system).fault ≠ some (.header (.undeclarable problem)) := by
  intro told
  obtain ⟨request, failed⟩ := exists_generate_of_fault told
  exact Generation.generate_ne_undeclarable problem failed

/-- The exit code is 3 if a session ended badly and 0 if there is no fault. It is 2 if a program is not
known, but also if the message of any other fault quotes a path that has the phrase of wrong usage,
and only if it quotes none it is 1. -/
theorem exitCode_execute (host : Host σ) (setting : Setting) (command : Command) (system : σ) :
    let execution := execute host setting command system
    (execution.exitCode = 0 ↔ execution.fault = none) ∧
      (execution.exitCode = 1 ↔ ∃ fault, execution.fault = some fault ∧ fault.isBadEnd = false ∧
        (∀ missing, fault ≠ .program missing) ∧ ∀ path ∈ fault.quoted, ¬ SaysMissing path) ∧
      (execution.exitCode = 2 ↔ ∃ fault, execution.fault = some fault ∧
        ((∃ missing, fault = .program missing) ∨ ∃ path ∈ fault.quoted, SaysMissing path)) ∧
      (execution.exitCode = 3 ↔ ∃ fault, execution.fault = some fault ∧ fault.isBadEnd = true) := by
  intro execution
  cases told : execution.fault with
  | none =>
    have code : execution.exitCode = 0 := exitCode_eq_zero_iff_fault.mpr told
    simp [code]
  | some fault =>
    have declarable : ∀ problem, fault ≠ .header (.undeclarable problem) := by
      rintro problem rfl
      exact fault_execute_ne_undeclarable problem told
    rw [exitCode_of_fault told]
    simp only [Option.some.injEq, exists_eq_left', reduceCtorEq, iff_false]
    cases bad : fault.isBadEnd with
    | true =>
      have other : ¬ ((∃ missing, fault = .program missing) ∨
          ∃ path ∈ fault.quoted, SaysMissing path) := by
        rw [CommandFault.quoted_of_isBadEnd bad]
        rintro (⟨missing, rfl⟩ | ⟨path, mem, -⟩)
        · cases bad
        · cases mem
      rw [CommandFault.exitCode_of_isBadEnd bad]
      exact ⟨by decide, iff_of_false (by decide) nofun, iff_of_false (by decide) other,
        iff_of_true rfl rfl⟩
    | false =>
      have named := CommandFault.saysMissing_iff bad declarable
      by_cases found : SaysMissing (fault.chain.headD "")
      · have misled := named.mp found
        rw [CommandFault.exitCode_of_saysMissing bad found]
        refine ⟨by decide, iff_of_false (by decide) ?_, iff_of_true rfl misled,
          iff_of_false (by decide) nofun⟩
        rintro ⟨-, known, plain⟩
        rcases misled with ⟨missing, same⟩ | ⟨path, mem, asks⟩
        · exact known missing same
        · exact plain path mem asks
      · have clear := mt named.mpr found
        obtain ⟨known, plain⟩ := not_or.mp clear
        rw [CommandFault.exitCode_of_not_saysMissing bad found]
        exact ⟨by decide, iff_of_true rfl ⟨rfl, not_exists.mp known,
          fun path mem found => plain ⟨path, mem, found⟩⟩, iff_of_false (by decide) clear,
          iff_of_false (by decide) nofun⟩

/-- A directory that is not there is told by another exit code if its name has the phrase. -/
theorem exitCode_of_misleading_name :
    let words (directory : Path) := ["generate", "--config-dir", directory]
    let command (directory : Path) : Command := .generate ⟨none, directory, none, "slamp_produce.h"⟩
    let run (directory : Path) :=
      execute Timeline.host earlySetting (command directory) earlyTimeline
    (∀ directory ∈ ["absent", "missing required argument"],
        Invocation.parse [] (words directory) = .ok ⟨command directory, false⟩ ∧
          (run directory).fault = some (.header (.noDirectory directory))) ∧
      (run "absent").exitCode = 1 ∧ (run "missing required argument").exitCode = 2 := by
  decide +kernel

end Execution

end CommandLine

end ProfilingSession
