import ProfilingSession.Proofs.CommandLine.Spelling

/-!
# Command lines that ask for a session

A command is read from words after its name, and some of its options are taken from the environment
if they do not stand there. `Spells.readCommand_eq_ok_iff` says when that goes well, from the line that
the words stand for: the line has to be right by itself, and what is taken from the environment has to
go with it. `SpellsRun` adds what may come before the command, so that a whole command line that asks
for a session is described without its reader.
-/

namespace ProfilingSession.CommandLine

open Grammar

variable {grammar : Grammar} {environment : Environment} {scan next : Scan} {given total : Given}
variable {line : Line} {name word : String} {words rest more : List String}
variable {sources : List (String × String)} {options : RunOptions}

theorem Grammar.scan_eq_none (alone : grammar.commands = [])
    {command : Option (String × List String)} (ok : grammar.scan scan words = .ok (next, command)) :
    command = none := by
  induction words generalizing scan with
  | nil =>
    cases ok
    rfl
  | cons word rest ih =>
    have never : grammar.isCommand scan word = false := by simp [isCommand, alone]
    rw [Grammar.scan, never] at ok
    obtain ⟨_, -, ok⟩ := bind_eq_ok_iff.mp ok
    exact ih ok

/-- The options that are taken from the environment since they are not given. -/
def drawn (environment : Environment) (given : Given) (sources : List (String × String)) :
    List (String × String) :=
  sources.filterMap fun source =>
    if given.has source.1 then none else (environment.value? source.2).map (source.1, ·)

/-- Variables of the environment stand for options of the grammar, and each for another one. -/
structure Sources (grammar : Grammar) (sources : List (String × String)) : Prop where
  differ : (sources.map Prod.fst).Nodup
  known : ∀ source ∈ sources, source.1 ∈ grammar.options.map OptionForm.name

theorem drawn_cons (source : String × String) :
    drawn environment given (source :: sources) =
      drawn environment given [source] ++ drawn environment given sources := by
  rw [drawn, ← List.singleton_append, List.filterMap_append]
  rfl

theorem drawn_adding {source : String × String} (fresh : source.1 ∉ sources.map Prod.fst) :
    drawn environment (given.adding (drawn environment given [source])) sources =
      drawn environment given sources := by
  have other : ∀ entry ∈ sources, (given.adding (drawn environment given [source])).has entry.1 =
      given.has entry.1 := by
    intro entry mem
    rw [Given.has_adding, Bool.or_eq_left_iff_imp, List.any_eq_true]
    rintro ⟨found, mem', same⟩
    obtain ⟨drawnFrom, mem'', kept⟩ := List.mem_filterMap.mp mem'
    obtain rfl := List.mem_singleton.mp mem''
    split at kept
    · cases kept
    · obtain ⟨value, -, rfl⟩ := Option.map_eq_some_iff.mp kept
      rw [beq_iff_eq] at same
      exact absurd (same ▸ List.mem_map_of_mem mem) fresh
  unfold drawn
  exact List.filterMap_congr fun entry mem => by rw [← drawn, other entry mem]

theorem takeVariable_eq_ok_iff (distinct : grammar.Distinct) {source : String × String}
    (known : source.1 ∈ grammar.options.map OptionForm.name) :
    takeVariable grammar environment scan source = .ok next ↔
      scan.given.Takes grammar (drawn environment scan.given [source]) ∧
        next = { scan with given := scan.given.adding (drawn environment scan.given [source]) } := by
  obtain ⟨form, mem, named⟩ := List.mem_map.mp known
  have unchanged : (.ok scan : Except UsageFault Scan) = .ok next ↔
      scan.given.Takes grammar [] ∧ next = { scan with given := scan.given.adding [] } := by
    simp only [Given.takes_nil, Given.adding, List.append_nil, true_and, Except.ok.injEq]
    exact eq_comm
  rw [takeVariable, ← named, distinct.long form mem]
  cases there : environment.value? source.2 with
  | none => simpa [drawn, there] using unchanged
  | some value =>
    cases fresh : scan.given.has form.name with
    | true => simpa [drawn, there, fresh, ← named] using unchanged
    | false =>
      have taken : drawn environment scan.given [source] = [(form.name, value)] := by
        simp [drawn, there, fresh, ← named]
      simp only [fresh, Bool.false_eq_true, if_false, taken]
      exact Scan.take_eq_ok_iff distinct mem

/-- What is taken from the environment comes after what is given. -/
theorem foldlM_takeVariable_eq_ok_iff (distinct : grammar.Distinct)
    (proper : Sources grammar sources) :
    sources.foldlM (takeVariable grammar environment) scan = .ok next ↔
      scan.given.Takes grammar (drawn environment scan.given sources) ∧
        next = { scan with given := scan.given.adding (drawn environment scan.given sources) } := by
  induction sources generalizing scan with
  | nil =>
    change (.ok scan : Except UsageFault Scan) = .ok next ↔
      scan.given.Takes grammar [] ∧ next = { scan with given := scan.given.adding [] }
    simp only [Given.takes_nil, Given.adding, List.append_nil, true_and, Except.ok.injEq]
    exact eq_comm
  | cons source rest ih =>
    obtain ⟨differ, known⟩ := proper
    obtain ⟨fresh, differ⟩ := List.nodup_cons.mp differ
    obtain ⟨known, others⟩ := List.forall_mem_cons.mp known
    rw [List.foldlM_cons, bind_eq_ok_iff, drawn_cons, Given.takes_append, ← Given.adding_adding]
    simp only [takeVariable_eq_ok_iff distinct known, ih ⟨differ, others⟩]
    constructor
    · rintro ⟨_, ⟨first, rfl⟩, others, rfl⟩
      rw [drawn_adding fresh] at others
      exact ⟨⟨first, others⟩, by rw [drawn_adding fresh]⟩
    · rintro ⟨⟨first, others⟩, rfl⟩
      exact ⟨_, ⟨first, rfl⟩, by rwa [drawn_adding fresh], by rw [drawn_adding fresh]⟩

namespace Line

/-- What is given if there is nothing but a line. -/
def asGiven (line : Line) : Given :=
  ⟨line.options, line.operands.head?, line.passedOn⟩

/-- A line that is right by itself: its options are there once, with values that are allowed, and it
has one operand at most. -/
def Proper (line : Line) (grammar : Grammar) : Prop :=
  line.Fits grammar .nothing false

theorem after_nothing (line : Line) : line.after .nothing = line.asGiven := by
  simp [after, asGiven, Given.nothing]

end Line

/-- Words are understood just if the line that they stand for is right by itself and what is taken
from the environment is right, too. -/
theorem Spells.readCommand_eq_ok_iff (distinct : grammar.Distinct) (alone : grammar.commands = [])
    (proper : Sources grammar sources) (spells : Spells grammar none words line) :
    readCommand grammar environment sources words = .ok total ↔
      line.Proper grammar ∧ line.asGiven.Takes grammar (drawn environment line.asGiven sources) ∧
        line.asGiven.adding (drawn environment line.asGiven sources) = total := by
  have reads {total : Given} : grammar.Reads .start words total ↔
      line.Proper grammar ∧ line.asGiven = total := by
    rw [← line.after_nothing]
    exact spells.reads_iff distinct alone nofun .nothing false
  constructor
  · intro ok
    obtain ⟨⟨scan, command⟩, scanned, ok⟩ := bind_eq_ok_iff.mp ok
    obtain ⟨settled, settles, ok⟩ := bind_eq_ok_iff.mp ok
    obtain ⟨completed, taken, same⟩ := bind_eq_ok_iff.mp ok
    cases same
    obtain rfl := scan_eq_none alone scanned
    obtain ⟨takes, rfl⟩ := (foldlM_takeVariable_eq_ok_iff distinct proper).mp taken
    obtain ⟨fits, same⟩ := reads.mp ⟨scan, settled, scanned, settles, rfl⟩
    exact ⟨fits, same ▸ takes, by rw [same]⟩
  · rintro ⟨fits, takes, rfl⟩
    obtain ⟨scan, settled, scanned, settles, same⟩ := reads.mpr ⟨fits, rfl⟩
    refine bind_eq_ok_iff.mpr ⟨(scan, none), scanned, bind_eq_ok_iff.mpr ⟨settled, settles, ?_⟩⟩
    rw [← same] at takes ⊢
    exact bind_eq_ok_iff.mpr
      ⟨_, (foldlM_takeVariable_eq_ok_iff distinct proper).mpr ⟨takes, rfl⟩, rfl⟩

/-- Words that are understood stand for something. -/
theorem exists_spells_of_readCommand (distinct : grammar.Distinct) (alone : grammar.commands = [])
    (ok : readCommand grammar environment sources words = .ok total) :
    ∃ line, Spells grammar none words line := by
  obtain ⟨⟨scan, command⟩, scanned, ok⟩ := bind_eq_ok_iff.mp ok
  obtain ⟨settled, settles, -⟩ := bind_eq_ok_iff.mp ok
  obtain rfl := scan_eq_none alone scanned
  have reads : grammar.Reads ⟨.nothing, .after none, false, false⟩ words settled.given :=
    ⟨scan, settled, scanned, settles, rfl⟩
  exact exists_spells_of_reads distinct alone nofun reads

/-! What comes before the command -/

/-- What can come before a command: the switch that makes it say less, at most once. -/
def IsPreamble (words : List String) : Prop :=
  words = [] ∨ words = ["-q"] ∨ words = ["--quiet"]

theorem scan_of_escaped (passes : grammar.passesOn = false) {command : Option (String × List String)}
    (escaped : scan.escaped = true) (ok : grammar.scan scan words = .ok (next, command)) :
    command = none := by
  cases words with
  | nil =>
    cases ok
    rfl
  | cons word rest =>
    have never : grammar.isCommand scan word = false := by simp [isCommand, escaped]
    rw [Grammar.scan, never, Grammar.word_of_escaped escaped, passedWord, passes] at ok
    cases ok

namespace Invocation

theorem distinct_grammar : Invocation.grammar.Distinct where
  long := by decide
  short := by decide
  name := by decide
  letter := by decide

theorem eq_quietSwitch {form : OptionForm} (mem : form ∈ Invocation.grammar.options) :
    form = quietSwitch :=
  List.mem_singleton.mp mem

/-- The only option before the command is a switch. -/
theorem value_eq_none {form : OptionForm} (mem : form ∈ Invocation.grammar.options) :
    form.value = none := by
  rw [eq_quietSwitch mem]
  rfl

/-- Short forms before the command are repetitions of the one letter. -/
theorem letters_quietSwitch {cs : List Char} {options : List (String × String)}
    {waits : Option OptionForm} (letters : Letters Invocation.grammar cs options waits) :
    ∃ n, cs = List.replicate n 'q' ∧ options = List.replicate n ("quiet", "") ∧ waits = none := by
  induction letters with
  | done => exact ⟨0, rfl, rfl, rfl⟩
  | switch mem short _ _ ih =>
    obtain ⟨n, rfl, rfl, rfl⟩ := ih
    rw [eq_quietSwitch mem] at short ⊢
    obtain rfl := Option.some.inj short
    exact ⟨n + 1, rfl, rfl, rfl⟩
  | equals mem _ takes => exact absurd (value_eq_none mem) takes
  | attached mem _ takes => exact absurd (value_eq_none mem) takes
  | separate mem _ takes => exact absurd (value_eq_none mem) takes

/-- All that can stand before the command is the one switch, since it cannot be there twice. -/
theorem spelling_of_dashed {options : List (String × String)} {waits : Option OptionForm}
    (dashed : Dashed Invocation.grammar word options waits)
    (takes : given.Takes Invocation.grammar options) :
    (word = "-q" ∨ word = "--quiet") ∧ options = [("quiet", "")] ∧ waits = none := by
  cases dashed with
  | switch mem =>
    rw [eq_quietSwitch mem]
    exact ⟨.inr rfl, rfl, rfl⟩
  | equals mem takesValue => exact absurd (value_eq_none mem) takesValue
  | separate mem takesValue => exact absurd (value_eq_none mem) takesValue
  | letters letters =>
    obtain ⟨n, shape, rfl, rfl⟩ := letters_quietSwitch letters
    have once := takes.once
    rw [List.map_replicate, List.nodup_replicate] at once
    obtain rfl : n = 1 := by
      cases n with
      | zero => cases shape
      | succ n => omega
    rw [shape]
    exact ⟨.inl rfl, rfl, rfl⟩

/-- A word that is read before the command is the switch, or two dashes. -/
theorem word_eq_ok
    (ok : Invocation.grammar.word ⟨given, .nothing, false, false⟩ word = .ok next) :
    next.escaped = true ∨ given.has "quiet" = false ∧ (word = "-q" ∨ word = "--quiet") ∧
      next = ⟨given.adding [("quiet", "")], .nothing, false, false⟩ := by
  rcases dashed_of_word distinct_grammar ok with rfl | plain | ⟨options, waits, dashed⟩
  · cases ok
    exact .inl rfl
  · rw [word_of_plain rfl plain] at ok
    cases ok
  · obtain ⟨takes, rfl⟩ := (dashed.word_eq_ok_iff distinct_grammar given).mp ok
    obtain ⟨spelled, rfl, rfl⟩ := spelling_of_dashed dashed takes
    exact .inr ⟨takes.fresh _ List.mem_cons_self, spelled, rfl⟩

theorem exists_preamble_of_scan {name : String}
    (ok : Invocation.grammar.scan .start words = .ok (next, some (name, rest))) :
    ∃ before, IsPreamble before ∧ words = before ++ name :: rest := by
  cases words with
  | nil => cases ok
  | cons first words =>
    rw [Grammar.scan] at ok
    split at ok
    · cases ok
      exact ⟨[], .inl rfl, rfl⟩
    · obtain ⟨between, read, ok⟩ := bind_eq_ok_iff.mp ok
      rcases word_eq_ok read with escaped | ⟨-, spelled, rfl⟩
      · cases scan_of_escaped rfl escaped ok
      · cases words with
        | nil => cases ok
        | cons second words =>
          rw [Grammar.scan] at ok
          split at ok
          · cases ok
            rcases spelled with rfl | rfl
            · exact ⟨["-q"], .inr (.inl rfl), rfl⟩
            · exact ⟨["--quiet"], .inr (.inr rfl), rfl⟩
          · obtain ⟨between, read, ok⟩ := bind_eq_ok_iff.mp ok
            rcases word_eq_ok read with escaped | ⟨again, -⟩
            · cases scan_of_escaped rfl escaped ok
            · cases again

theorem parse_run {before : List String} (preamble : IsPreamble before) :
    parse environment (before ++ "run" :: rest) =
      (readRun environment rest).map fun answer =>
        ⟨answer.1, !before.isEmpty || answer.2⟩ := by
  rcases preamble with rfl | rfl | rfl
  · rfl
  · rfl
  · rfl

/-- A command line asks for a session if the command is named after the switch, if that is there,
and the words after the command are understood. -/
theorem parse_eq_run_iff {quiet : Bool} :
    parse environment words = .ok ⟨.run options, quiet⟩ ↔
      ∃ before rest, IsPreamble before ∧ words = before ++ "run" :: rest ∧
        ∃ quietHere, readRun environment rest = .ok (.run options, quietHere) ∧
          quiet = (!before.isEmpty || quietHere) := by
  constructor
  · intro ok
    obtain ⟨⟨scan, command⟩, scanned, answered⟩ := bind_eq_ok_iff.mp ok
    cases command with
    | none => cases answered
    | some found =>
      obtain ⟨name, rest⟩ := found
      dsimp only at answered
      split at answered
      · cases answered
      split at answered
      · next isRun =>
        subst isRun
        obtain ⟨⟨command, quietHere⟩, read, same⟩ := bind_eq_ok_iff.mp answered
        cases same
        obtain ⟨before, preamble, rfl⟩ := exists_preamble_of_scan scanned
        rw [parse_run preamble, read] at ok
        obtain ⟨-, same⟩ := Invocation.mk.inj (Except.ok.inj ok)
        exact ⟨before, rest, preamble, rfl, quietHere, read, same.symm⟩
      · obtain ⟨⟨command, quietHere⟩, read, same⟩ := bind_eq_ok_iff.mp answered
        cases same
        obtain ⟨given, -, read⟩ := bind_eq_ok_iff.mp read
        split at read <;> cases read
  · rintro ⟨before, rest, preamble, rfl, quietHere, read, rfl⟩
    rw [parse_run preamble, read]
    rfl

end Invocation

/-! Lines that ask for a session -/

theorem RunOptions.distinct_grammar : RunOptions.grammar.Distinct where
  long := by decide +kernel
  short := by decide +kernel
  name := by decide +kernel
  letter := by decide +kernel

theorem RunOptions.sources_fromEnvironment :
    Sources RunOptions.grammar RunOptions.fromEnvironment where
  differ := by decide
  known := by decide

namespace Line

/-- What is given by a line about a session, with what is taken from the environment. -/
def completed (line : Line) (environment : Environment) : Given :=
  line.asGiven.adding (drawn environment line.asGiven RunOptions.fromEnvironment)

/-- A line that is understood as one about a session. -/
structure Accepted (environment : Environment) (line : Line) : Prop where
  proper : line.Proper RunOptions.grammar
  taken : line.asGiven.Takes RunOptions.grammar
    (drawn environment line.asGiven RunOptions.fromEnvironment)
  checked : RunOptions.check (line.completed environment) = .ok ()

end Line

/-- Words after the command are understood just if the line that they stand for is. -/
theorem Spells.readRun_eq_ok_iff {answer : Command × Bool}
    (spells : Spells RunOptions.grammar none words line) :
    Invocation.readRun environment words = .ok answer ↔
      line.Accepted environment ∧ answer =
        (.run (.ofGiven (line.completed environment)), (line.completed environment).has "quiet") := by
  have reads {given : Given} : readCommand RunOptions.grammar environment RunOptions.fromEnvironment
      words = .ok given ↔ line.Proper RunOptions.grammar ∧ line.asGiven.Takes RunOptions.grammar
        (drawn environment line.asGiven RunOptions.fromEnvironment) ∧
        line.completed environment = given :=
    spells.readCommand_eq_ok_iff RunOptions.distinct_grammar rfl RunOptions.sources_fromEnvironment
  constructor
  · intro ok
    obtain ⟨given, read, ok⟩ := bind_eq_ok_iff.mp ok
    obtain ⟨⟨⟩, checked, same⟩ := bind_eq_ok_iff.mp ok
    cases same
    obtain ⟨proper, taken, rfl⟩ := reads.mp read
    exact ⟨⟨proper, taken, checked⟩, rfl⟩
  · rintro ⟨accepted, rfl⟩
    have read := reads.mpr ⟨accepted.proper, accepted.taken, rfl⟩
    exact bind_eq_ok_iff.mpr ⟨_, read, bind_eq_ok_iff.mpr ⟨(), accepted.checked, rfl⟩⟩

theorem exists_spells_of_readRun {answer : Command × Bool}
    (ok : Invocation.readRun environment words = .ok answer) :
    ∃ line, Spells RunOptions.grammar none words line := by
  obtain ⟨given, read, -⟩ := bind_eq_ok_iff.mp ok
  exact exists_spells_of_readCommand RunOptions.distinct_grammar rfl read

/-- Words that ask for a session, with what the words after the command stand for. -/
inductive SpellsRun : List String → Line → Prop where
  | run {before rest : List String} {line : Line} (preamble : IsPreamble before)
    (spells : Spells RunOptions.grammar none rest line) : SpellsRun (before ++ "run" :: rest) line

/-- A line whose words are understood is accepted, and asks for its options. -/
theorem SpellsRun.accepted_of_parse {invocation : Invocation} (spells : SpellsRun words line)
    (ok : Invocation.parse environment words = .ok invocation) :
    line.Accepted environment ∧
      invocation.command = .run (.ofGiven (line.completed environment)) := by
  obtain ⟨preamble, spells⟩ := spells
  rw [Invocation.parse_run preamble] at ok
  obtain ⟨answer, read, rfl⟩ := map_eq_ok_iff.mp ok
  obtain ⟨accepted, rfl⟩ := spells.readRun_eq_ok_iff.mp read
  exact ⟨accepted, rfl⟩

theorem exists_spellsRun_of_parse {quiet : Bool}
    (ok : Invocation.parse environment words = .ok ⟨.run options, quiet⟩) :
    ∃ line, SpellsRun words line := by
  obtain ⟨before, rest, preamble, rfl, quietHere, read, -⟩ := Invocation.parse_eq_run_iff.mp ok
  obtain ⟨line, spells⟩ := exists_spells_of_readRun read
  exact ⟨line, .run preamble spells⟩

end ProfilingSession.CommandLine
