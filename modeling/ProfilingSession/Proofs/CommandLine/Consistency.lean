import ProfilingSession.Proofs.CommandLine.RunLine

/-!
# Options that go together

Some options of a session need others, and some exclude each other. What decides is which options
stand on the command line, and not which have a value in the end: usual values and those from the
environment do not count. `Line.check_completed_iff` says this of the check that the program makes,
`Line.Reflects` relates what stands on the line to what the session is told, and
`Invocation.consistent_of_parse` draws the conclusions for everything that needs an option.
-/

namespace ProfilingSession.CommandLine

open FileTree (Path)

variable {environment : Environment} {given : Given} {line : Line} {options : RunOptions}
variable {name value : String} {words : List String} {sources : List (String × String)}

namespace Given

theorem isSome_value? (given : Given) (name : String) :
    (given.value? name).isSome = given.has name := by
  rw [value?, Option.isSome_map, List.isSome_find?, has]

/-- An option is taken from the environment if it was not given and a variable for it is set. -/
theorem has_adding_drawn_iff :
    (given.adding (drawn environment given sources)).has name = true ↔
      given.has name = true ∨
        ∃ key, (name, key) ∈ sources ∧ (environment.value? key).isSome := by
  rw [has_adding, Bool.or_eq_true, List.any_eq_true]
  cases there : given.has name with
  | true => simp
  | false =>
    simp only [Bool.false_eq_true, false_or, drawn, List.mem_filterMap, beq_iff_eq]
    constructor
    · rintro ⟨_, ⟨⟨name', key⟩, mem, kept⟩, rfl⟩
      split at kept
      · cases kept
      · obtain ⟨value, found, rfl⟩ := Option.map_eq_some_iff.mp kept
        exact ⟨key, mem, by rw [found]; rfl⟩
    · rintro ⟨key, mem, found⟩
      obtain ⟨value, found⟩ := Option.isSome_iff_exists.mp found
      exact ⟨(name, value), ⟨(name, key), mem, by simp [there, found]⟩, rfl⟩

end Given

namespace Line

/-- An option stands on the line. -/
def Gives (line : Line) (name : String) : Prop :=
  ∃ value, (name, value) ∈ line.options

/-- The options on a line go together: there is a producer, there is one way at most to tell when the
consumer is ready, and a template is for a directory of specifications. -/
structure Consistent (line : Line) : Prop where
  producer : line.operands ≠ [] ∨ line.Gives "exe"
  readiness : ¬ (line.Gives "warm-up" ∧ line.Gives "ready-timeout")
  template : line.Gives "template" → line.Gives "config-dir"

/-- An option has a value in the end if it stands on the line or a variable for it is set. -/
theorem has_completed_iff : (line.completed environment).has name = true ↔
    line.Gives name ∨
      ∃ key, (name, key) ∈ RunOptions.fromEnvironment ∧ (environment.value? key).isSome := by
  have there : line.asGiven.has name = true ↔ line.Gives name := by
    simp [asGiven, Given.has, Gives]
  rw [completed, Given.has_adding_drawn_iff, there]

/-- Most options have a value only if they stand on the line. -/
theorem has_completed_of_own (own : name ∉ RunOptions.fromEnvironment.map Prod.fst) :
    (line.completed environment).has name = true ↔ line.Gives name := by
  rw [has_completed_iff, or_iff_left_iff_imp]
  rintro ⟨key, mem, -⟩
  exact absurd (List.mem_map_of_mem mem) own

theorem isSome_operand_completed :
    (line.completed environment).operand.isSome = true ↔ line.operands ≠ [] := by
  rw [completed, Given.adding, asGiven, List.isSome_head?, ← List.isEmpty_eq_false_iff]

end Line

theorem RunOptions.check_eq_ok_iff : RunOptions.check given = .ok () ↔
    (given.operand.isSome = true ∨ given.has "exe" = true) ∧
      ¬ (given.has "warm-up" = true ∧ given.has "ready-timeout" = true) ∧
      (given.has "template" = true → given.has "config-dir" = true) := by
  rw [RunOptions.check, ite_error_eq_ok_iff, ite_error_eq_ok_iff, ite_error_eq_ok_iff,
    ← Option.not_isSome]
  simp only [Bool.and_eq_true, Bool.not_eq_true', ← Bool.not_eq_true]
  tauto

/-- The check that is made of all that is given in the end is one of what stands on the line. -/
theorem Line.check_completed_iff :
    RunOptions.check (line.completed environment) = .ok () ↔ line.Consistent := by
  have own {name : String} (own : name ∉ RunOptions.fromEnvironment.map Prod.fst) :
      (line.completed environment).has name = true ↔ line.Gives name := has_completed_of_own own
  rw [RunOptions.check_eq_ok_iff, isSome_operand_completed, own (by decide), own (by decide),
    own (by decide), own (by decide), own (by decide)]
  exact ⟨fun ⟨producer, readiness, template⟩ => ⟨producer, readiness, template⟩,
    fun ⟨producer, readiness, template⟩ => ⟨producer, readiness, template⟩⟩

/-- The options of a session are those on its line: no usual value is there in place of one, and the
environment gives a directory of the consumer at most. -/
structure Line.Reflects (environment : Environment) (line : Line) (options : RunOptions) : Prop where
  target : options.target.isSome ↔ line.operands ≠ []
  executable : options.executable.isSome ↔ line.Gives "exe"
  warmUp : options.warmUp.isSome ↔ line.Gives "warm-up"
  consumer : options.consumer.isSome ↔ line.Gives "consumer"
  installDirectory : options.installDirectory.isSome ↔
    line.Gives "install-dir" ∨ (environment.value? "SLAMP_INSTALL_DIR").isSome
  configDirectory : options.configDirectory.isSome ↔ line.Gives "config-dir"
  template : options.template.isSome ↔ line.Gives "template"
  skipBuild : options.skipBuild ↔ line.Gives "skip-build"

namespace Line.Accepted

theorem sound (accepted : line.Accepted environment) :
    (line.completed environment).Sound RunOptions.grammar := by
  intro entry mem
  rcases List.mem_append.mp mem with stands | taken
  · exact accepted.proper.options.allowed entry stands
  · exact accepted.taken.allowed entry taken

/-- The delay is there if its option is, since its value was checked. -/
theorem isSome_warmUp (accepted : line.Accepted environment) :
    (RunOptions.ofGiven (line.completed environment)).warmUp.isSome ↔ line.Gives "warm-up" := by
  have stands : (line.completed environment).has "warm-up" = true ↔ line.Gives "warm-up" :=
    has_completed_of_own (by decide)
  rw [← stands, ← Given.isSome_value?]
  change (((line.completed environment).value? "warm-up").bind readTime).isSome ↔ _
  cases found : (line.completed environment).value? "warm-up" with
  | none => rfl
  | some value =>
    obtain ⟨form, mem, named, checked⟩ := accepted.sound.allows found
    have kind : ∀ form ∈ RunOptions.grammar.options, form.name = "warm-up" → form.kind = .time := by
      decide +kernel
    rw [kind form mem named, ValueKind.check] at checked
    split at checked
    · next reads => simpa using reads
    · cases checked

theorem reflects (accepted : line.Accepted environment) :
    line.Reflects environment (.ofGiven (line.completed environment)) := by
  have own {name : String} (own : name ∉ RunOptions.fromEnvironment.map Prod.fst) :
      ((line.completed environment).value? name).isSome ↔ line.Gives name := by
    rw [Given.isSome_value?, has_completed_of_own own]
  have target : (line.completed environment).operand.isSome ↔ line.operands ≠ [] :=
    isSome_operand_completed
  refine ⟨target, own (by decide), accepted.isSome_warmUp, own (by decide), ?_,
    own (by decide), own (by decide), has_completed_of_own (by decide)⟩
  change ((line.completed environment).value? "install-dir").isSome ↔ _
  rw [Given.isSome_value?, has_completed_iff]
  simp [RunOptions.fromEnvironment]

end Line.Accepted

namespace RunOptions

theorem exists_producerPath_iff : (∃ path, options.producerPath = .ok path) ↔
    options.target.isSome ∨ options.executable.isSome := by
  unfold producerPath
  cases options.executable <;> cases options.target <;> simp

theorem exists_consumerPath_iff : (∃ path, options.consumerPath = .ok path) ↔
    options.consumer.isSome ∨ options.installDirectory.isSome := by
  unfold consumerPath
  cases options.consumer <;> cases options.installDirectory <;> simp

theorem exists_plan_iff : (∃ plan, options.plan = .ok plan) ↔
    (∃ path, options.consumerPath = .ok path) ∧ ∃ path, options.producerPath = .ok path := by
  unfold plan
  cases options.consumerPath <;> cases options.producerPath <;>
    simp [bind, Except.bind, pure, Except.pure]

theorem isSome_headerRequest_iff : options.headerRequest.isSome ↔
    options.configDirectory.isSome ∧ options.skipBuild = false := by
  unfold headerRequest
  cases options.skipBuild <;> simp

end RunOptions

namespace Invocation

/-- A command line that asks for a session and is understood has options that go together, and what
follows from them can be had: the producer is known; the consumer is, and so there is a plan, just if
it or the place where it is installed is given; and a header is asked for just if there is a
directory of specifications and it is not to be skipped. A line whose options do not go together is
refused, wherever they stand and however they are written. -/
theorem consistent_of_parse (environment : Environment) (words : List String) :
    (∀ options quiet, parse environment words = .ok ⟨.run options, quiet⟩ →
      (∃ line, SpellsRun words line ∧ line.Consistent ∧ line.Reflects environment options) ∧
      (options.target.isSome ∨ options.executable.isSome) ∧
      (∃ path, options.producerPath = .ok path) ∧
      (options.template.isSome → options.configDirectory.isSome) ∧
      ((∃ plan, options.plan = .ok plan) ↔
        options.consumer.isSome ∨ options.installDirectory.isSome) ∧
      (options.headerRequest.isSome ↔
        options.configDirectory.isSome ∧ options.skipBuild = false)) ∧
    ∀ line, SpellsRun words line → ¬ line.Consistent →
      ∃ fault, parse environment words = .error fault := by
  constructor
  · intro options quiet ok
    obtain ⟨line, spells⟩ := exists_spellsRun_of_parse ok
    obtain ⟨accepted, same⟩ := spells.accepted_of_parse ok
    obtain rfl := Command.run.inj same
    have consistent : line.Consistent := Line.check_completed_iff.mp accepted.checked
    have reflects := accepted.reflects
    have producer := consistent.producer
    rw [← reflects.target, ← reflects.executable] at producer
    have producerKnown := RunOptions.exists_producerPath_iff.mpr producer
    refine ⟨⟨line, spells, consistent, reflects⟩, producer, producerKnown, ?_, ?_,
      RunOptions.isSome_headerRequest_iff⟩
    · rw [reflects.template, reflects.configDirectory]
      exact consistent.template
    · rw [RunOptions.exists_plan_iff, RunOptions.exists_consumerPath_iff,
        and_iff_left producerKnown]
  · intro line spells inconsistent
    cases understood : parse environment words with
    | error fault => exact ⟨fault, rfl⟩
    | ok invocation =>
      obtain ⟨accepted, -⟩ := spells.accepted_of_parse understood
      exact absurd (Line.check_completed_iff.mp accepted.checked) inconsistent

/-- Options in several spellings, which go together. -/
def fittingWords : List String :=
  ["--quiet", "run", "-qmlv", "--config-dir=specs", "--template", "base.h", "-o=out", "main.bc"]

def fittingOptions : RunOptions :=
  .ofGiven ⟨[("quiet", ""), ("module", "lv"), ("config-dir", "specs"), ("template", "base.h"),
    ("output", "out"), ("install-dir", "/opt")], some "main.bc", []⟩

/-- Two ways to tell when the consumer is ready, apart from each other and spelled differently. -/
def clashingWords : List String :=
  ["run", "--ready-timeout=5", "-q", "main.bc", "--warm-up", "7"]

def clashingLine : Line where
  options := [("ready-timeout", "5"), ("quiet", ""), ("warm-up", "7")]
  operands := ["main.bc"]
  passedOn := []

theorem spellsRun_clashingWords : SpellsRun clashingWords clashingLine := by
  have ready : Dashed RunOptions.grammar "--ready-timeout=5" [("ready-timeout", "5")] none :=
    @Dashed.equals _ ⟨"ready-timeout", none, some .time⟩ (by decide) (by decide) "5"
  have quiet : Dashed RunOptions.grammar "-q" [("quiet", "")] none :=
    .letters (@Letters.switch _ ⟨"quiet", some 'q', none⟩ _ _ _ _ (by decide) rfl rfl .done)
  have warmUp : Dashed RunOptions.grammar "--warm-up" [] (some ⟨"warm-up", none, some .time⟩) :=
    @Dashed.separate _ ⟨"warm-up", none, some .time⟩ (by decide) (by decide)
  have plain {word : String} {c : Char} {cs : List Char} (shape : word.toList = c :: cs)
      (other : c ≠ '-') : IsPlain word := by
    intro d ds same
    exact other (List.cons.inj (shape.symm.trans same)).1
  have spells : Spells RunOptions.grammar none clashingWords.tail clashingLine :=
    .dashed ready (.dashed quiet (.operand (plain rfl (by decide))
      (.dashed warmUp (.value (plain rfl (by decide)) .nil))))
  exact @SpellsRun.run [] _ _ (.inl rfl) spells

/-- Options that go together are understood, and make a plan; others are refused. -/
theorem consistent_of_fitting_words :
    parse [("SLAMP_INSTALL_DIR", "/opt")] fittingWords = .ok ⟨.run fittingOptions, true⟩ ∧
      (∃ plan, fittingOptions.plan = .ok plan) ∧
      SpellsRun clashingWords clashingLine ∧ ¬ clashingLine.Consistent ∧
      ∃ fault, parse [] clashingWords = .error fault := by
  have understood : parse [("SLAMP_INSTALL_DIR", "/opt")] fittingWords =
      .ok ⟨.run fittingOptions, true⟩ := by decide +kernel
  have clash : ¬ clashingLine.Consistent :=
    fun consistent => consistent.readiness ⟨⟨"7", by decide⟩, ⟨"5", by decide⟩⟩
  obtain ⟨-, -, -, -, plans, -⟩ :=
    (consistent_of_parse [("SLAMP_INSTALL_DIR", "/opt")] fittingWords).1 _ _ understood
  exact ⟨understood, plans.mpr (.inr rfl), spellsRun_clashingWords, clash,
    (consistent_of_parse [] clashingWords).2 _ spellsRun_clashingWords clash⟩

end Invocation

end ProfilingSession.CommandLine
