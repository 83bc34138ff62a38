import ProfilingSession.Proofs.CommandLine.RunLine
import ProfilingSession.Proofs.Text.Words

/-!
# Arguments for the producer

Whatever follows two dashes is for the producer, and is not looked at. So a command line that is
understood may be followed by two dashes and any words: all that it says stays as it is, and the words
are the arguments of the producer (`Invocation.parse_passing`). If there are none, the arguments are
the words of a text, as without the dashes.
-/

namespace ProfilingSession.CommandLine

variable {grammar : Grammar} {environment : Environment} {line : Line} {options : RunOptions}
variable {waits : Option OptionForm} {words : List String}

/-- Words without two dashes stand for the same if these and arguments follow. -/
theorem Spells.passing (spells : Spells grammar waits words line) (bare : "--" ∉ words)
    (arguments : List String) :
    Spells grammar waits (words ++ "--" :: arguments) { line with passedOn := arguments } := by
  induction spells with
  | nil => exact .passedOn arguments
  | passedOn words => exact absurd List.mem_cons_self bare
  | value plain _ ih => exact .value plain (ih (List.not_mem_of_not_mem_cons bare))
  | operand plain _ ih => exact .operand plain (ih (List.not_mem_of_not_mem_cons bare))
  | dashed dashed _ ih => exact .dashed dashed (ih (List.not_mem_of_not_mem_cons bare))

/-- No arguments are passed on without two dashes. -/
theorem Spells.passedOn_eq_nil (spells : Spells grammar waits words line) (bare : "--" ∉ words) :
    line.passedOn = [] := by
  induction spells with
  | nil => rfl
  | passedOn words => exact absurd List.mem_cons_self bare
  | value _ _ ih => exact ih (List.not_mem_of_not_mem_cons bare)
  | operand _ _ ih => exact ih (List.not_mem_of_not_mem_cons bare)
  | dashed _ _ ih => exact ih (List.not_mem_of_not_mem_cons bare)

/-- Arguments that are passed on have no part in whether a line is accepted. -/
theorem Line.Accepted.passing (accepted : line.Accepted environment) (arguments : List String) :
    Accepted environment { line with passedOn := arguments } where
  proper := ⟨accepted.proper.options, accepted.proper.operands, .inr rfl⟩
  taken := ⟨accepted.taken.fresh, accepted.taken.once, accepted.taken.allowed⟩
  checked := accepted.checked

namespace RunOptions

theorem argumentsOfProducer_of_nil (bare : options.producerArguments = []) :
    options.argumentsOfProducer = Text.words options.profileArguments := by
  rw [argumentsOfProducer, bare]
  rfl

theorem argumentsOfProducer_of_ne_nil (there : options.producerArguments ≠ []) :
    options.argumentsOfProducer = options.producerArguments := by
  rw [argumentsOfProducer, if_neg (by simpa using there)]

theorem producerArguments_of_plan {plan : Plan} (plans : options.plan = .ok plan) :
    plan.producerArguments = options.argumentsOfProducer := by
  obtain ⟨consumer, -, plans⟩ := bind_eq_ok_iff.mp plans
  obtain ⟨producer, -, same⟩ := bind_eq_ok_iff.mp plans
  cases same
  rfl

/-- The arguments of the producer have no part in the rest of the plan. -/
theorem plan_passing (options : RunOptions) (arguments : List String) :
    let passing : RunOptions := { options with producerArguments := arguments }
    passing.plan = options.plan.map fun plan =>
      { plan with producerArguments := passing.argumentsOfProducer } := by
  change (options.consumerPath >>= fun consumer => options.producerPath >>= fun producer => _) =
    (options.consumerPath >>= fun consumer => options.producerPath >>= fun producer => _).map _
  cases options.consumerPath <;> cases options.producerPath <;> rfl

/-- If there are arguments to pass on, they are those of the producer, and else nothing changes. -/
theorem plan_passing_of_nil (bare : options.producerArguments = []) (arguments : List String) :
    ({ options with producerArguments := arguments } : RunOptions).plan = options.plan.map fun plan =>
      if arguments = [] then plan else { plan with producerArguments := arguments } := by
  cases arguments with
  | nil =>
    have same : ({ options with producerArguments := [] } : RunOptions) = options := by rw [← bare]
    rw [same]
    cases options.plan <;> rfl
  | cons first rest =>
    rw [plan_passing, argumentsOfProducer_of_ne_nil (List.cons_ne_nil first rest)]
    rfl

end RunOptions

namespace Invocation

/-- A command line that is understood and has no two dashes may be followed by two dashes and any
words. They are the arguments of the producer, one by one, if there are any, whatever is said about
arguments elsewhere; else these are the words of a text, as without the dashes. Nothing else
changes. -/
theorem parse_passing {quiet : Bool} (ok : parse environment words = .ok ⟨.run options, quiet⟩)
    (bare : "--" ∉ words) (arguments : List String) :
    let passing : RunOptions := { options with producerArguments := arguments }
    parse environment (words ++ "--" :: arguments) = .ok ⟨.run passing, quiet⟩ ∧
      passing.plan = options.plan.map (fun plan =>
        if arguments = [] then plan else { plan with producerArguments := arguments }) ∧
      ∀ plan, options.plan = .ok plan → Text.Separated options.profileArguments.toList
        (plan.producerArguments.map String.toList) := by
  intro passing
  obtain ⟨before, rest, preamble, rfl, quietHere, read, rfl⟩ := parse_eq_run_iff.mp ok
  obtain ⟨line, spells⟩ := exists_spells_of_readRun read
  have bare : "--" ∉ rest := fun mem => bare (by simp [mem])
  obtain ⟨accepted, same⟩ := spells.readRun_eq_ok_iff.mp read
  have none' : options.producerArguments = [] := by
    cases same
    exact spells.passedOn_eq_nil bare
  have passes : readRun environment (rest ++ "--" :: arguments) = .ok (.run passing, quietHere) := by
    rw [(spells.passing bare arguments).readRun_eq_ok_iff]
    cases same
    exact ⟨accepted.passing arguments, rfl⟩
  refine ⟨?_, RunOptions.plan_passing_of_nil none' arguments, ?_⟩
  · rw [List.append_assoc, List.cons_append, parse_run preamble, passes]
    rfl
  · intro plan plans
    rw [RunOptions.producerArguments_of_plan plans, RunOptions.argumentsOfProducer_of_nil none']
    exact Text.separated_words _

/-- Options in the arguments are none of the program's. -/
theorem parse_passing_of_options :
    let environment := [("PROFILEARGS", "unused")]
    let words := ["run", "-q", "main.bc", "--consumer=./c"]
    let arguments := ["--", "-q", "", "a b"]
    let options : RunOptions := .ofGiven
      ⟨[("quiet", ""), ("consumer", "./c"), ("profile-args", "unused")], some "main.bc", []⟩
    parse environment words = .ok ⟨.run options, true⟩ ∧ "--" ∉ words ∧
      parse environment (words ++ "--" :: arguments) =
        .ok ⟨.run { options with producerArguments := arguments }, true⟩ := by
  intro environment words arguments options
  have understood : parse environment words = .ok ⟨.run options, true⟩ := by decide +kernel
  have bare : "--" ∉ words := by decide
  exact ⟨understood, bare, (parse_passing understood bare arguments).1⟩

end Invocation

end ProfilingSession.CommandLine
