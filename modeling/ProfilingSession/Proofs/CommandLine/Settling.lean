import ProfilingSession.Proofs.CommandLine.Values

/-!
# Looking at what was begun

A value that follows its option, and an operand, are looked at only when something else comes up, or
at the end. What is given when all words are read is as if they had been looked at at once:
`Grammar.reads_iff_settle`. So a word can be read as if nothing had been begun before it.
-/

namespace ProfilingSession.CommandLine

/-- A word that is no option: it does not start with a dash, or is a dash alone. -/
def IsPlain (word : String) : Prop :=
  ∀ c cs, word.toList ≠ '-' :: c :: cs

variable {grammar : Grammar} {form : OptionForm} {scan next : Scan} {given total : Given}
variable {hadOperand : Bool} {word : String} {words : List String}

namespace Scan

/-- Looking at what was begun changes what is given, and nothing else is begun then. -/
theorem eq_of_settle (ok : scan.settle = .ok next) :
    next = ⟨next.given, .nothing, scan.hadOperand, scan.escaped⟩ := by
  unfold settle at ok
  dsimp only at ok
  split at ok
  · next nothing =>
    cases ok
    rw [← nothing]
  · cases ok
  · unfold take at ok
    split at ok
    · cases ok
    · obtain ⟨_, -, same⟩ := bind_eq_ok_iff.mp ok
      cases same
      rfl
  · obtain ⟨_, -, same⟩ := bind_eq_ok_iff.mp ok
    cases same
    rfl

/-- It does not matter for what was begun that two dashes came after it. -/
theorem exists_settle_escaped_iff {p : Scan → Prop} :
    (∃ settled, { scan with escaped := true }.settle = .ok settled ∧ p settled) ↔
      ∃ settled, scan.settle = .ok settled ∧ p { settled with escaped := true } := by
  have same : { scan with escaped := true }.settle =
      scan.settle.map fun settled => { settled with escaped := true } := by
    obtain ⟨given, pending, hadOperand, escaped⟩ := scan
    cases pending with
    | nothing => rfl
    | waiting form => rfl
    | option form kind value =>
      simp only [settle, take]
      cases given.has form.name with
      | true => rfl
      | false => cases kind.check value <;> rfl
    | operand kind value =>
      simp only [settle]
      cases kind.check value <;> rfl
  simp only [same, map_eq_ok_iff]
  constructor
  · rintro ⟨_, ⟨settled, settles, rfl⟩, h⟩
    exact ⟨settled, settles, h⟩
  · rintro ⟨settled, settles, h⟩
    exact ⟨_, ⟨settled, settles, rfl⟩, h⟩

theorem settle_of_nothing (nothing : scan.pending = .nothing) : scan.settle = .ok scan := by
  unfold settle
  rw [nothing]

/-- Whatever begins by looking at what was begun can as well be done once that is over. -/
theorem settle_bind_iff {after : Scan → Except UsageFault Scan} :
    (scan.settle >>= after) = .ok next ↔
      ∃ settled, scan.settle = .ok settled ∧ (settled.settle >>= after) = .ok next := by
  rw [bind_eq_ok_iff]
  refine exists_congr fun settled => and_congr_right fun settles => ?_
  rw [eq_of_settle settles, settle_of_nothing rfl]
  rfl

end Scan

namespace Grammar

/-- Words are read to their end, and what is given then. -/
def Reads (grammar : Grammar) (scan : Scan) (words : List String) (total : Given) : Prop :=
  ∃ read settled, grammar.scan scan words = .ok (read, none) ∧ read.settle = .ok settled ∧
    settled.given = total

theorem reads_nil :
    grammar.Reads scan [] total ↔ ∃ settled, scan.settle = .ok settled ∧ settled.given = total := by
  simp [Reads, Grammar.scan]

theorem reads_cons (alone : grammar.commands = []) :
    grammar.Reads scan (word :: words) total ↔
      ∃ next, grammar.word scan word = .ok next ∧ grammar.Reads next words total := by
  have never : grammar.isCommand scan word = false := by simp [isCommand, alone]
  simp only [Reads, Grammar.scan, never, Bool.false_eq_true, if_false, bind_eq_ok_iff]
  constructor
  · rintro ⟨read, settled, ⟨next, ok, rest⟩, ended⟩
    exact ⟨next, ok, read, settled, rest, ended⟩
  · rintro ⟨next, ok, read, settled, rest, ended⟩
    exact ⟨read, settled, ⟨next, ok, rest⟩, ended⟩

theorem longForm_eq_ok_iff_settle {cs : List Char} :
    grammar.longForm scan cs = .ok next ↔
      ∃ settled, scan.settle = .ok settled ∧ grammar.longForm settled cs = .ok next := by
  unfold longForm
  dsimp only
  split
  · split
    · exact Scan.settle_bind_iff
    · exact Scan.settle_bind_iff
    · simp
    · exact Scan.settle_bind_iff
  · split <;> simp
  · split
    · exact Scan.settle_bind_iff
    · simp

theorem shortForms_eq_ok_iff_settle {letter : Char} {cs : List Char} :
    grammar.shortForms scan (letter :: cs) = .ok next ↔
      ∃ settled, scan.settle = .ok settled ∧
        grammar.shortForms settled (letter :: cs) = .ok next := by
  simp only [shortForms]
  split
  · split
    · exact Scan.settle_bind_iff
    · exact Scan.settle_bind_iff
    · simp only [Scan.takeSwitch, bind_assoc]
      exact Scan.settle_bind_iff
  · split
    · exact Scan.settle_bind_iff
    · simp

theorem passedWord_eq_ok_iff_settle :
    grammar.passedWord scan word = .ok next ↔
      ∃ settled, scan.settle = .ok settled ∧ grammar.passedWord settled word = .ok next := by
  unfold passedWord
  split
  · exact Scan.settle_bind_iff
  · simp

theorem plainWord_eq_ok_iff (free : ∀ form, scan.pending ≠ .waiting form) :
    grammar.plainWord scan word = .ok next ↔
      ∃ kind, grammar.operand = some kind ∧ scan.hadOperand = false ∧
        (scan.settle >>= fun settled => pure
          { settled with pending := .operand kind word, hadOperand := true }) = .ok next := by
  unfold plainWord
  split
  · next form waits => exact absurd waits (free form)
  · next kind takes _ => cases had : scan.hadOperand <;> simp [takes]
  · next none' _ => simp [none']

theorem plainWord_eq_ok_iff_settle (free : ∀ form, scan.pending ≠ .waiting form) :
    grammar.plainWord scan word = .ok next ↔
      ∃ settled, scan.settle = .ok settled ∧ grammar.plainWord settled word = .ok next := by
  rw [plainWord_eq_ok_iff free]
  constructor
  · rintro ⟨kind, takes, fresh, ok⟩
    obtain ⟨settled, settles, ok⟩ := Scan.settle_bind_iff.mp ok
    have ended := Scan.eq_of_settle settles
    have nothing : settled.pending = .nothing := congrArg Scan.pending ended
    have fresh' : settled.hadOperand = false := (congrArg Scan.hadOperand ended).trans fresh
    exact ⟨settled, settles, (plainWord_eq_ok_iff (by simp [nothing])).mpr
      ⟨kind, takes, fresh', ok⟩⟩
  · rintro ⟨settled, settles, ok⟩
    have ended := Scan.eq_of_settle settles
    have nothing : settled.pending = .nothing := congrArg Scan.pending ended
    obtain ⟨kind, takes, fresh, ok⟩ := (plainWord_eq_ok_iff (by simp [nothing])).mp ok
    exact ⟨kind, takes, (congrArg Scan.hadOperand ended).symm.trans fresh,
      Scan.settle_bind_iff.mpr ⟨settled, settles, ok⟩⟩

/-- The kinds of words that are told apart. -/
theorem word_cases (word : String) :
    word = "--" ∨ (∃ c cs, word.toList = '-' :: '-' :: c :: cs) ∨
      (∃ c cs, c ≠ '-' ∧ word.toList = '-' :: c :: cs) ∨ IsPlain word := by
  by_cases plain : IsPlain word
  · exact .inr (.inr (.inr plain))
  · simp only [IsPlain, not_forall, not_not] at plain
    obtain ⟨c, cs, shape⟩ := plain
    by_cases dash : c = '-'
    · subst dash
      cases cs with
      | nil => exact .inl (String.toList_inj.mp shape)
      | cons c cs => exact .inr (.inl ⟨c, cs, shape⟩)
    · exact .inr (.inr (.inl ⟨c, cs, dash, shape⟩))

variable {c : Char} {cs : List Char}

theorem word_of_escaped (escaped : scan.escaped = true) :
    grammar.word scan word = grammar.passedWord scan word := by
  rw [Grammar.word, if_pos escaped]

theorem word_of_dashes (inside : scan.escaped = false) :
    grammar.word scan "--" = .ok { scan with escaped := true } := by
  simp [Grammar.word, inside]

theorem word_of_long (inside : scan.escaped = false) (shape : word.toList = '-' :: '-' :: c :: cs) :
    grammar.word scan word = grammar.longForm scan (c :: cs) := by
  simp [Grammar.word, inside, shape]

theorem word_of_letters (inside : scan.escaped = false) (other : c ≠ '-')
    (shape : word.toList = '-' :: c :: cs) :
    grammar.word scan word = grammar.shortForms scan (c :: cs) := by
  simp [Grammar.word, inside, shape, other]

theorem word_of_plain (inside : scan.escaped = false) (plain : IsPlain word) :
    grammar.word scan word = grammar.plainWord scan word := by
  unfold Grammar.word
  simp only [inside, Bool.false_eq_true, if_false]
  split
  · next shape => exact absurd shape (plain _ _)
  · next shape => exact absurd shape (plain _ _)
  · next shape => exact absurd shape (plain _ _)
  · rfl

/-- A word is read as if what was begun before it were over, unless it is a value that is waited for
or the two dashes. -/
theorem word_eq_ok_iff_settle (free : IsPlain word → ∀ form, scan.pending ≠ .waiting form)
    (other : scan.escaped = false → word ≠ "--") :
    grammar.word scan word = .ok next ↔
      ∃ settled, scan.settle = .ok settled ∧ grammar.word settled word = .ok next := by
  have kept {settled : Scan} (settles : scan.settle = .ok settled) :
      settled.escaped = scan.escaped := by
    rw [Scan.eq_of_settle settles]
  cases escaped : scan.escaped with
  | true =>
    rw [word_of_escaped escaped, passedWord_eq_ok_iff_settle]
    refine exists_congr fun settled => and_congr_right fun settles => ?_
    rw [word_of_escaped ((kept settles).trans escaped)]
  | false =>
    rcases word_cases word with dashes | ⟨c, cs, shape⟩ | ⟨c, cs, ne, shape⟩ | plain
    · exact absurd dashes (other escaped)
    · rw [word_of_long escaped shape, longForm_eq_ok_iff_settle]
      refine exists_congr fun settled => and_congr_right fun settles => ?_
      rw [word_of_long ((kept settles).trans escaped) shape]
    · rw [word_of_letters escaped ne shape, shortForms_eq_ok_iff_settle]
      refine exists_congr fun settled => and_congr_right fun settles => ?_
      rw [word_of_letters ((kept settles).trans escaped) ne shape]
    · rw [word_of_plain escaped plain, plainWord_eq_ok_iff_settle (free plain)]
      refine exists_congr fun settled => and_congr_right fun settles => ?_
      rw [word_of_plain ((kept settles).trans escaped) plain]

/-- What was begun can be looked at before the next words as well as later. -/
theorem reads_iff_settle (alone : grammar.commands = [])
    (free : ∀ form, scan.pending ≠ .waiting form) :
    grammar.Reads scan words total ↔
      ∃ settled, scan.settle = .ok settled ∧ grammar.Reads settled words total := by
  induction words generalizing scan with
  | nil =>
    simp only [reads_nil]
    constructor
    · rintro ⟨settled, settles, same⟩
      exact ⟨settled, settles, settled, by rw [Scan.eq_of_settle settles]; rfl, same⟩
    · rintro ⟨settled, settles, again, settles', same⟩
      rw [Scan.eq_of_settle settles, Scan.settle_of_nothing rfl] at settles'
      cases settles'
      exact ⟨settled, settles, by rw [← same]⟩
  | cons word rest ih =>
    simp only [reads_cons alone]
    by_cases dashes : scan.escaped = false ∧ word = "--"
    · obtain ⟨inside, rfl⟩ := dashes
      have escapes {scan : Scan} (inside : scan.escaped = false) :
          (∃ next, grammar.word scan "--" = .ok next ∧ grammar.Reads next rest total) ↔
            grammar.Reads { scan with escaped := true } rest total := by
        rw [word_of_dashes inside]
        simp
      have kept {settled : Scan} (settles : scan.settle = .ok settled) :
          settled.escaped = false := (congrArg Scan.escaped (Scan.eq_of_settle settles)).trans inside
      have free' : ∀ form, { scan with escaped := true }.pending ≠ .waiting form := free
      rw [escapes inside, ih free', Scan.exists_settle_escaped_iff]
      exact exists_congr fun settled => and_congr_right fun settles => (escapes (kept settles)).symm
    · have other : scan.escaped = false → word ≠ "--" := fun inside same => dashes ⟨inside, same⟩
      constructor
      · rintro ⟨next, ok, reads⟩
        obtain ⟨settled, settles, ok⟩ := (word_eq_ok_iff_settle (fun _ => free) other).mp ok
        exact ⟨settled, settles, next, ok, reads⟩
      · rintro ⟨settled, settles, next, ok, reads⟩
        exact ⟨next, (word_eq_ok_iff_settle (fun _ => free) other).mpr ⟨settled, settles, ok⟩,
          reads⟩

/-- The arguments after two dashes are taken as they are. -/
theorem reads_passed (alone : grammar.commands = []) :
    grammar.Reads ⟨given, .nothing, hadOperand, true⟩ words total ↔
      (words = [] ∨ grammar.passesOn = true) ∧
        { given with passedOn := given.passedOn ++ words } = total := by
  induction words generalizing given with
  | nil => simp [reads_nil, Scan.settle_of_nothing]
  | cons word rest ih =>
    rw [reads_cons alone, word_of_escaped rfl, passedWord, Scan.settle_of_nothing rfl]
    cases passes : grammar.passesOn with
    | false => simp
    | true =>
      simp only [if_true, pure, Except.pure, bind, Except.bind, Except.ok.injEq, exists_eq_left',
        ih, passes]
      simp

/-- An option gets its value from the next word, which must not look like an option. -/
theorem plain_of_reads_waiting (alone : grammar.commands = [])
    (reads : grammar.Reads ⟨given, .waiting form, hadOperand, false⟩ words total) :
    ∃ word rest, words = word :: rest ∧ IsPlain word := by
  have unsettled (escaped : Bool) {settled : Scan} :
      (⟨given, .waiting form, hadOperand, escaped⟩ : Scan).settle ≠ .ok settled := nofun
  cases words with
  | nil =>
    obtain ⟨_, settles, -⟩ := reads_nil.mp reads
    exact absurd settles (unsettled false)
  | cons word rest =>
    obtain ⟨next, ok, reads⟩ := (reads_cons alone).mp reads
    rcases word_cases word with rfl | ⟨c, cs, shape⟩ | ⟨c, cs, other, shape⟩ | plain
    · cases ok
      cases rest with
      | nil =>
        obtain ⟨_, settles, -⟩ := reads_nil.mp reads
        exact absurd settles (unsettled true)
      | cons word rest =>
        obtain ⟨_, ok, -⟩ := (reads_cons alone).mp reads
        rw [word_of_escaped rfl] at ok
        obtain ⟨_, settles, -⟩ := passedWord_eq_ok_iff_settle.mp ok
        exact absurd settles (unsettled true)
    · rw [word_of_long rfl shape] at ok
      obtain ⟨_, settles, -⟩ := longForm_eq_ok_iff_settle.mp ok
      exact absurd settles (unsettled false)
    · rw [word_of_letters rfl other shape] at ok
      obtain ⟨_, settles, -⟩ := shortForms_eq_ok_iff_settle.mp ok
      exact absurd settles (unsettled false)
    · exact ⟨word, rest, rfl, plain⟩

end Grammar

end ProfilingSession.CommandLine
