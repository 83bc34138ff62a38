import Mathlib.Data.List.TakeWhile
import ProfilingSession.Proofs.CommandLine.Settling

/-!
# What the words of a command spell

`Spells` says what the words of a command stand for, whatever becomes of it: options with their
values, in any of the ways in which they can be written, operands, and the arguments after two
dashes. All that a word depends on is whether an option waits for its value.

The reader looks at a value late and keeps account of what was begun. Still, words are read if they
spell something and this is proper, and what is given then is what they spell
(`Spells.reads_iff`, `exists_spells_of_reads`): each option is there once, with a value that it may
have, and there is one operand at most. So it does not matter where an option stands or how it is
written.
-/

namespace ProfilingSession.CommandLine

/-- What the words of a command stand for. -/
structure Line where
  /-- Options in the order in which they stand, with their values; switches have an empty one. -/
  options : List (String × String)
  operands : List String
  /-- The arguments after two dashes. -/
  passedOn : List String

/-- The forms of a grammar are found under their names and letters, and can be told from two dashes
and from values. -/
structure Grammar.Distinct (grammar : Grammar) : Prop where
  long : ∀ form ∈ grammar.options, grammar.long? form.name = some form
  short : ∀ form ∈ grammar.options,
    form.short.all fun letter => grammar.short? letter = some form
  name : ∀ form ∈ grammar.options, form.name ≠ "" ∧ '=' ∉ form.name.toList
  letter : ∀ form ∈ grammar.options, form.short ≠ some '-'

/-- Short forms that are put together, with the options they stand for, and the option that waits for
its value after them. -/
inductive Letters (grammar : Grammar) :
    List Char → List (String × String) → Option OptionForm → Prop where
  | done : Letters grammar [] [] none
  | switch {form : OptionForm} {letter : Char} {cs : List Char} {given : List (String × String)}
    {waits : Option OptionForm} (mem : form ∈ grammar.options) (short : form.short = some letter)
    (isSwitch : form.value = none) (rest : Letters grammar cs given waits) :
    Letters grammar (letter :: cs) ((form.name, "") :: given) waits
  | equals {form : OptionForm} {letter : Char} (mem : form ∈ grammar.options)
    (short : form.short = some letter) (takes : form.value ≠ none) (value : String) :
    Letters grammar (letter :: '=' :: value.toList) [(form.name, value)] none
  | attached {form : OptionForm} {letter c : Char} (mem : form ∈ grammar.options)
    (short : form.short = some letter) (takes : form.value ≠ none) (other : c ≠ '=')
    (cs : List Char) : Letters grammar (letter :: c :: cs) [(form.name, .ofList (c :: cs))] none
  | separate {form : OptionForm} {letter : Char} (mem : form ∈ grammar.options)
    (short : form.short = some letter) (takes : form.value ≠ none) :
    Letters grammar [letter] [] (some form)

/-- A word that stands for options, and the option that waits for its value after it. -/
inductive Dashed (grammar : Grammar) :
    String → List (String × String) → Option OptionForm → Prop where
  | switch {form : OptionForm} (mem : form ∈ grammar.options) (isSwitch : form.value = none) :
    Dashed grammar ("--" ++ form.name) [(form.name, "")] none
  | equals {form : OptionForm} (mem : form ∈ grammar.options) (takes : form.value ≠ none)
    (value : String) : Dashed grammar ("--" ++ form.name ++ "=" ++ value) [(form.name, value)] none
  | separate {form : OptionForm} (mem : form ∈ grammar.options) (takes : form.value ≠ none) :
    Dashed grammar ("--" ++ form.name) [] (some form)
  | letters {c : Char} {cs : List Char} {given : List (String × String)}
    {waits : Option OptionForm} (letters : Letters grammar (c :: cs) given waits) :
    Dashed grammar (.ofList ('-' :: c :: cs)) given waits

/-- What words stand for, after an option that waits for its value or after none. -/
inductive Spells (grammar : Grammar) : Option OptionForm → List String → Line → Prop where
  | nil : Spells grammar none [] ⟨[], [], []⟩
  | passedOn (words : List String) : Spells grammar none ("--" :: words) ⟨[], [], words⟩
  | value {form : OptionForm} {word : String} {words : List String} {line : Line}
    (plain : IsPlain word) (rest : Spells grammar none words line) :
    Spells grammar (some form) (word :: words)
      { line with options := (form.name, word) :: line.options }
  | operand {word : String} {words : List String} {line : Line} (plain : IsPlain word)
    (rest : Spells grammar none words line) :
    Spells grammar none (word :: words) { line with operands := word :: line.operands }
  | dashed {word : String} {words : List String} {line : Line} {given : List (String × String)}
    {waits : Option OptionForm} (dashed : Dashed grammar word given waits)
    (rest : Spells grammar waits words line) :
    Spells grammar none (word :: words) { line with options := given ++ line.options }

variable {grammar : Grammar} {form : OptionForm} {kind : ValueKind} {scan next : Scan}
variable {given total : Given} {options more : List (String × String)} {line : Line}
variable {waits : Option OptionForm} {name value word : String} {words : List String}

namespace Given

/-- What is given with some more options. -/
def adding (given : Given) (options : List (String × String)) : Given :=
  { given with options := given.options ++ options }

/-- Options that can be given beside those that are there: each of them is new, is there once, and has
a value that is allowed. -/
structure Takes (grammar : Grammar) (given : Given) (options : List (String × String)) : Prop where
  fresh : ∀ entry ∈ options, given.has entry.1 = false
  once : (options.map Prod.fst).Nodup
  allowed : ∀ entry ∈ options, grammar.Allows entry.1 entry.2

theorem has_adding : (given.adding options).has name =
    (given.has name || options.any fun entry => entry.1 == name) := by
  simp [has, adding]

theorem adding_adding : (given.adding options).adding more = given.adding (options ++ more) := by
  simp [adding]

theorem takes_nil : given.Takes grammar [] :=
  ⟨by simp, by simp, by simp⟩

theorem takes_append :
    given.Takes grammar (options ++ more) ↔
      given.Takes grammar options ∧ (given.adding options).Takes grammar more := by
  constructor
  · rintro ⟨fresh, once, allowed⟩
    rw [List.map_append, List.nodup_append] at once
    obtain ⟨once, once', apart⟩ := once
    refine ⟨⟨fun entry mem => fresh entry (by simp [mem]), once,
      fun entry mem => allowed entry (by simp [mem])⟩, ?_, once',
      fun entry mem => allowed entry (by simp [mem])⟩
    intro entry mem
    simp only [has_adding, fresh entry (by simp [mem]), Bool.false_or, List.any_eq_false,
      beq_iff_eq]
    exact fun other mem' => apart _ (List.mem_map_of_mem mem') _ (List.mem_map_of_mem mem)
  · rintro ⟨⟨fresh, once, allowed⟩, ⟨fresh', once', allowed'⟩⟩
    simp only [has_adding, Bool.or_eq_false_iff, List.any_eq_false, beq_iff_eq] at fresh'
    refine ⟨?_, ?_, ?_⟩
    · exact List.forall_mem_append.mpr ⟨fresh, fun entry mem => (fresh' entry mem).1⟩
    · rw [List.map_append, List.nodup_append]
      refine ⟨once, once', ?_⟩
      simp only [List.forall_mem_map]
      exact fun entry mem other mem' => (fresh' other mem').2 entry mem
    · exact List.forall_mem_append.mpr ⟨allowed, allowed'⟩

end Given

namespace Grammar

theorem Distinct.eq_of_name (distinct : grammar.Distinct) {other : OptionForm}
    (mem : form ∈ grammar.options) (mem' : other ∈ grammar.options) (same : form.name = other.name) :
    form = other := by
  have found := distinct.long form mem
  rw [same, distinct.long other mem'] at found
  exact (Option.some.inj found).symm

theorem Distinct.allows_iff (distinct : grammar.Distinct) (mem : form ∈ grammar.options) :
    grammar.Allows form.name value ↔ form.kind.check value = .ok () := by
  constructor
  · rintro ⟨other, mem', same, checked⟩
    rwa [distinct.eq_of_name mem mem' same.symm]
  · exact fun checked => ⟨form, mem, rfl, checked⟩

end Grammar

/-- What was begun if an option waits for its value, or none. -/
def Pending.after : Option OptionForm → Pending
  | none => .nothing
  | some form => .waiting form

namespace Line

/-- A line that can come after what is given: its options can, there is one operand at most, which is
in its place and has a value that is allowed, and arguments after two dashes may follow. -/
structure Fits (grammar : Grammar) (given : Given) (hadOperand : Bool) (line : Line) : Prop where
  options : given.Takes grammar line.options
  operands : line.operands = [] ∨ hadOperand = false ∧ ∃ value kind, line.operands = [value] ∧
    grammar.operand = some kind ∧ kind.check value = .ok ()
  passedOn : line.passedOn = [] ∨ grammar.passesOn = true

/-- What is given in the end if a line comes after what is given. -/
def after (line : Line) (given : Given) : Given :=
  ⟨given.options ++ line.options, line.operands.head?.or given.operand,
    given.passedOn ++ line.passedOn⟩

variable {hadOperand : Bool}

theorem fits_options :
    { line with options := options ++ line.options }.Fits grammar given hadOperand ↔
      given.Takes grammar options ∧ line.Fits grammar (given.adding options) hadOperand := by
  constructor
  · rintro ⟨takes, operands, passedOn⟩
    obtain ⟨first, rest⟩ := Given.takes_append.mp takes
    exact ⟨first, rest, operands, passedOn⟩
  · rintro ⟨first, rest, operands, passedOn⟩
    exact ⟨Given.takes_append.mpr ⟨first, rest⟩, operands, passedOn⟩

theorem after_options :
    { line with options := options ++ line.options }.after given =
      line.after (given.adding options) := by
  simp [after, Given.adding]

theorem fits_operand :
    { line with operands := word :: line.operands }.Fits grammar given hadOperand ↔
      ∃ kind, grammar.operand = some kind ∧ hadOperand = false ∧ kind.check word = .ok () ∧
        line.Fits grammar { given with operand := some word } true := by
  constructor
  · rintro ⟨⟨fresh, once, allowed⟩, operands | ⟨first, value, kind, only, takes, checked⟩, passedOn⟩
    · cases operands
    · obtain ⟨rfl, none'⟩ := List.cons.inj only
      exact ⟨kind, takes, first, checked, ⟨fresh, once, allowed⟩, .inl none', passedOn⟩
  · rintro ⟨kind, takes, first, checked, ⟨fresh, once, allowed⟩, none' | ⟨again, -⟩, passedOn⟩
    · have only : word :: line.operands = [word] := by rw [none']
      exact ⟨⟨fresh, once, allowed⟩, .inr ⟨first, word, kind, only, takes, checked⟩, passedOn⟩
    · cases again

theorem after_operand (fits : line.Fits grammar { given with operand := some word } true) :
    { line with operands := word :: line.operands }.after given =
      line.after { given with operand := some word } := by
  rcases fits.operands with none' | ⟨again, -⟩
  · simp [after, none']
  · cases again

end Line

namespace Scan

theorem take_eq_ok_iff (distinct : grammar.Distinct) (mem : form ∈ grammar.options) :
    scan.take form form.kind value = .ok next ↔
      scan.given.Takes grammar [(form.name, value)] ∧
        next = { scan with given := scan.given.adding [(form.name, value)] } := by
  have takes : scan.given.Takes grammar [(form.name, value)] ↔
      scan.given.has form.name = false ∧ form.kind.check value = .ok () := by
    rw [← distinct.allows_iff mem]
    constructor
    · exact fun h => ⟨h.fresh _ List.mem_cons_self, h.allowed _ List.mem_cons_self⟩
    · exact fun h => ⟨by simpa using h.1, by simp, by simpa using h.2⟩
  rw [takes, take]
  cases scan.given.has form.name with
  | true => simp [bind, Except.bind]
  | false =>
    constructor
    · intro ok
      obtain ⟨⟨⟩, checked, same⟩ := bind_eq_ok_iff.mp ok
      cases same
      exact ⟨⟨rfl, checked⟩, rfl⟩
    · rintro ⟨⟨-, checked⟩, rfl⟩
      exact bind_eq_ok_iff.mpr ⟨(), checked, rfl⟩

end Scan

/-! The forms of options -/

namespace Grammar

variable {c : Char} {cs : List Char}

theorem takeWhile_append_of_not_mem (absent : '=' ∉ cs) (rest : List Char) :
    (cs ++ rest).takeWhile (· ≠ '=') = cs ++ rest.takeWhile (· ≠ '=') := by
  refine List.takeWhile_append_of_pos fun c mem => ?_
  exact decide_eq_true fun same => absent (same ▸ mem)

theorem splitValue_of_not_mem (absent : '=' ∉ cs) : splitValue cs = (.ofList cs, none) := by
  have whole : cs.takeWhile (· ≠ '=') = cs := by
    simpa using takeWhile_append_of_not_mem absent []
  simp only [splitValue, whole, List.drop_length]

theorem splitValue_append (absent : '=' ∉ cs) (value : List Char) :
    splitValue (cs ++ '=' :: value) = (.ofList cs, some (.ofList value)) := by
  have front : (cs ++ '=' :: value).takeWhile (· ≠ '=') = cs := by
    simpa using takeWhile_append_of_not_mem absent ('=' :: value)
  simp only [splitValue, front, List.drop_left]

theorem splitValue_cases (cs : List Char) :
    ('=' ∉ cs ∧ splitValue cs = (.ofList cs, none)) ∨
      ∃ name value, cs = name ++ '=' :: value ∧ '=' ∉ name ∧
        splitValue cs = (.ofList name, some (.ofList value)) := by
  by_cases mem : '=' ∈ cs
  · obtain ⟨name, value, rfl, absent⟩ := List.eq_append_cons_of_mem mem
    exact .inr ⟨name, value, rfl, absent, splitValue_append absent value⟩
  · exact .inl ⟨mem, splitValue_of_not_mem mem⟩

theorem long?_ofList_eq_some_iff (distinct : grammar.Distinct) :
    grammar.long? (.ofList cs) = some form ↔ form ∈ grammar.options ∧ cs = form.name.toList := by
  constructor
  · intro found
    have named := List.find?_some found
    simp only [beq_iff_eq] at named
    exact ⟨List.mem_of_find?_eq_some found, by rw [named, String.toList_ofList]⟩
  · rintro ⟨mem, rfl⟩
    rw [String.ofList_toList]
    exact distinct.long form mem

theorem short?_eq_some_iff (distinct : grammar.Distinct) :
    grammar.short? c = some form ↔ form ∈ grammar.options ∧ form.short = some c := by
  constructor
  · intro found
    have named := List.find?_some found
    simp only [beq_iff_eq] at named
    exact ⟨List.mem_of_find?_eq_some found, named⟩
  · rintro ⟨mem, named⟩
    simpa [named] using distinct.short form mem

end Grammar

open Grammar

variable {c : Char} {cs : List Char} {hadOperand : Bool}

theorem OptionForm.kind_of_takes (takes : form.value = some kind) : form.kind = kind := by
  simp [OptionForm.kind, takes]

theorem Grammar.shortForms_of_switch (distinct : grammar.Distinct) (mem : form ∈ grammar.options)
    (short : form.short = some c) (isSwitch : form.value = none) :
    grammar.shortForms ⟨given, .nothing, hadOperand, false⟩ (c :: cs) =
      ((⟨given, .nothing, hadOperand, false⟩ : Scan).take form form.kind "" >>= fun next =>
        grammar.shortForms next cs) := by
  have kind : form.kind = .text := by simp [OptionForm.kind, isSwitch]
  rw [shortForms, (short?_eq_some_iff distinct).mpr ⟨mem, short⟩, kind]
  simp only [isSwitch]
  rfl

theorem Grammar.shortForms_of_attached (distinct : grammar.Distinct) (mem : form ∈ grammar.options)
    (short : form.short = some c) (takes : form.value ≠ none) (there : attached cs = some value) :
    grammar.shortForms ⟨given, .nothing, hadOperand, false⟩ (c :: cs) =
      (⟨given, .nothing, hadOperand, false⟩ : Scan).take form form.kind value := by
  obtain ⟨kind, takes⟩ := Option.ne_none_iff_exists'.mp takes
  rw [shortForms, (short?_eq_some_iff distinct).mpr ⟨mem, short⟩, OptionForm.kind_of_takes takes]
  simp only [takes, there]
  rfl

theorem Grammar.shortForms_of_separate (distinct : grammar.Distinct) (mem : form ∈ grammar.options)
    (short : form.short = some c) (takes : form.value ≠ none) :
    grammar.shortForms ⟨given, .nothing, hadOperand, false⟩ [c] =
      .ok ⟨given, .waiting form, hadOperand, false⟩ := by
  obtain ⟨kind, takes⟩ := Option.ne_none_iff_exists'.mp takes
  rw [shortForms, (short?_eq_some_iff distinct).mpr ⟨mem, short⟩]
  simp only [takes, attached]
  rfl

theorem Grammar.attached_of_ne (other : c ≠ '=') (cs : List Char) :
    Grammar.attached (c :: cs) = some (.ofList (c :: cs)) := by
  unfold Grammar.attached
  split
  · next none' => cases none'
  · next same => exact absurd (List.cons.inj same).1 other
  · rfl

/-- Short forms are read as the options that they stand for. -/
theorem Letters.shortForms_eq_ok_iff (distinct : grammar.Distinct)
    (letters : Letters grammar cs options waits) (given : Given) :
    grammar.shortForms ⟨given, .nothing, hadOperand, false⟩ cs = .ok next ↔
      given.Takes grammar options ∧
        next = ⟨given.adding options, .after waits, hadOperand, false⟩ := by
  induction letters generalizing given with
  | done => simp [shortForms, Given.takes_nil, Given.adding, Pending.after, eq_comm]
  | @switch form letter cs options waits mem short isSwitch rest ih =>
    rw [shortForms_of_switch distinct mem short isSwitch, bind_eq_ok_iff, ← List.singleton_append,
      Given.takes_append, ← Given.adding_adding, and_assoc, ← ih]
    constructor
    · rintro ⟨between, taken, ok⟩
      obtain ⟨takes, rfl⟩ := (Scan.take_eq_ok_iff distinct mem).mp taken
      exact ⟨takes, ok⟩
    · rintro ⟨takes, ok⟩
      exact ⟨_, (Scan.take_eq_ok_iff distinct mem).mpr ⟨takes, rfl⟩, ok⟩
  | equals mem short takes value =>
    have there : Grammar.attached ('=' :: value.toList) = some value := by simp [Grammar.attached]
    rw [shortForms_of_attached distinct mem short takes there]
    exact Scan.take_eq_ok_iff distinct mem
  | attached mem short takes other cs =>
    rw [shortForms_of_attached distinct mem short takes (attached_of_ne other cs)]
    exact Scan.take_eq_ok_iff distinct mem
  | separate mem short takes =>
    rw [shortForms_of_separate distinct mem short takes]
    simp [Given.takes_nil, Given.adding, Pending.after, eq_comm]

theorem Grammar.longForm_of_name (distinct : grammar.Distinct) (mem : form ∈ grammar.options) :
    grammar.longForm ⟨given, .nothing, hadOperand, false⟩ form.name.toList =
      if form.value = none then
        (⟨given, .nothing, hadOperand, false⟩ : Scan).take form form.kind ""
      else .ok ⟨given, .waiting form, hadOperand, false⟩ := by
  have found := (long?_ofList_eq_some_iff distinct).mpr ⟨mem, rfl⟩
  rw [longForm, splitValue_of_not_mem (distinct.name form mem).2]
  simp only [found]
  cases takes : form.value with
  | none =>
    have kind : form.kind = .text := by simp [OptionForm.kind, takes]
    rw [if_pos rfl, kind]
    rfl
  | some kind => rfl

theorem Grammar.longForm_of_equals (distinct : grammar.Distinct) (mem : form ∈ grammar.options)
    (takes : form.value ≠ none) (value : List Char) :
    grammar.longForm ⟨given, .nothing, hadOperand, false⟩ (form.name.toList ++ '=' :: value) =
      (⟨given, .nothing, hadOperand, false⟩ : Scan).take form form.kind (.ofList value) := by
  obtain ⟨kind, takes⟩ := Option.ne_none_iff_exists'.mp takes
  have found := (long?_ofList_eq_some_iff distinct).mpr ⟨mem, rfl⟩
  rw [longForm, splitValue_append (distinct.name form mem).2, OptionForm.kind_of_takes takes]
  simp only [found, takes]
  rfl

/-- A name is not empty, so that a long form is no two dashes. -/
theorem Grammar.Distinct.exists_cons (distinct : grammar.Distinct) (mem : form ∈ grammar.options) :
    ∃ c cs, form.name.toList = c :: cs := by
  apply List.exists_cons_of_ne_nil
  simpa using (distinct.name form mem).1

/-- The option that waits for its value after short forms is one of the grammar. -/
theorem Letters.known (letters : Letters grammar cs options waits) :
    ∀ form ∈ waits, form ∈ grammar.options := by
  induction letters with
  | separate mem =>
    rintro _ ⟨⟩
    exact mem
  | switch _ _ _ _ ih => exact ih
  | _ =>
    rintro _ ⟨⟩

theorem Dashed.known (dashed : Dashed grammar word options waits) :
    ∀ form ∈ waits, form ∈ grammar.options := by
  cases dashed with
  | separate mem =>
    rintro _ ⟨⟩
    exact mem
  | letters letters => exact letters.known
  | _ =>
    rintro _ ⟨⟩

/-- A word that stands for options is read as these options. -/
theorem Dashed.word_eq_ok_iff (distinct : grammar.Distinct)
    (dashed : Dashed grammar word options waits) (given : Given) :
    grammar.word ⟨given, .nothing, hadOperand, false⟩ word = .ok next ↔
      given.Takes grammar options ∧
        next = ⟨given.adding options, .after waits, hadOperand, false⟩ := by
  cases dashed with
  | @switch form mem isSwitch =>
    obtain ⟨c, cs, shape⟩ := distinct.exists_cons mem
    have dashes : ("--" ++ form.name).toList = '-' :: '-' :: c :: cs := by simp [shape]
    rw [word_of_long rfl dashes, ← shape, longForm_of_name distinct mem, if_pos isSwitch]
    exact Scan.take_eq_ok_iff distinct mem
  | @equals form mem takes value =>
    obtain ⟨c, cs, shape⟩ := distinct.exists_cons mem
    have dashes : ("--" ++ form.name ++ "=" ++ value).toList =
        '-' :: '-' :: c :: (cs ++ '=' :: value.toList) := by simp [shape]
    rw [word_of_long rfl dashes, ← List.cons_append, ← shape,
      longForm_of_equals distinct mem takes, String.ofList_toList]
    exact Scan.take_eq_ok_iff distinct mem
  | @separate form mem takes =>
    obtain ⟨c, cs, shape⟩ := distinct.exists_cons mem
    have dashes : ("--" ++ form.name).toList = '-' :: '-' :: c :: cs := by simp [shape]
    rw [word_of_long rfl dashes, ← shape, longForm_of_name distinct mem, if_neg takes]
    simp [Given.takes_nil, Given.adding, Pending.after, eq_comm]
  | @letters c cs _ _ letters =>
    have other : c ≠ '-' := by
      rintro rfl
      cases letters with
      | switch mem short => exact distinct.letter _ mem short
      | equals mem short => exact distinct.letter _ mem short
      | attached mem short => exact distinct.letter _ mem short
      | separate mem short => exact distinct.letter _ mem short
    rw [word_of_letters rfl other String.toList_ofList]
    exact letters.shortForms_eq_ok_iff distinct given

/-- Short forms that are read stand for options. -/
theorem exists_letters_of_shortForms (distinct : grammar.Distinct)
    (ok : grammar.shortForms ⟨given, .nothing, hadOperand, false⟩ cs = .ok next) :
    ∃ options waits, Letters grammar cs options waits := by
  induction cs generalizing given with
  | nil => exact ⟨[], none, .done⟩
  | cons c rest ih =>
    cases found : grammar.short? c with
    | none =>
      rw [shortForms, found] at ok
      dsimp only at ok
      split at ok
      · exact absurd ok (Scan.Sound.askHelp_ne_ok _)
      · cases ok
    | some form =>
      obtain ⟨mem, short⟩ := (short?_eq_some_iff distinct).mp found
      by_cases takes : form.value = none
      · rw [shortForms_of_switch distinct mem short takes] at ok
        obtain ⟨between, taken, ok⟩ := bind_eq_ok_iff.mp ok
        obtain ⟨-, rfl⟩ := (Scan.take_eq_ok_iff distinct mem).mp taken
        obtain ⟨options, waits, letters⟩ := ih ok
        exact ⟨_, waits, .switch mem short takes letters⟩
      · cases rest with
        | nil => exact ⟨[], some form, .separate mem short takes⟩
        | cons d rest =>
          by_cases equals : d = '='
          · subst equals
            refine ⟨[(form.name, .ofList rest)], none, ?_⟩
            simpa using Letters.equals mem short takes (.ofList rest)
          · exact ⟨_, none, .attached mem short takes equals rest⟩

/-- A long form that is read stands for an option. -/
theorem exists_dashed_of_longForm (distinct : grammar.Distinct) (shape : word.toList = '-' :: '-' :: cs)
    (ok : grammar.longForm scan cs = .ok next) :
    ∃ options waits, Dashed grammar word options waits := by
  have unknown {name : String} {value : Option String} (missing : grammar.long? name = none)
      (split : splitValue cs = (name, value)) : False := by
    rw [longForm, split] at ok
    simp only [missing] at ok
    cases value with
    | some value =>
      dsimp only at ok
      split at ok <;> cases ok
    | none =>
      dsimp only at ok
      split at ok
      · exact Scan.Sound.askHelp_ne_ok _ ok
      · cases ok
  rcases splitValue_cases cs with ⟨absent, split⟩ | ⟨name, value, rfl, absent, split⟩
  · cases found : grammar.long? (.ofList cs) with
    | none => exact (unknown found split).elim
    | some form =>
      obtain ⟨mem, rfl⟩ := (long?_ofList_eq_some_iff distinct).mp found
      have spelled : word = "--" ++ form.name := String.toList_inj.mp (by simp [shape])
      subst spelled
      by_cases takes : form.value = none
      · exact ⟨_, none, .switch mem takes⟩
      · exact ⟨_, some form, .separate mem takes⟩
  · cases found : grammar.long? (.ofList name) with
    | none => exact (unknown found split).elim
    | some form =>
      obtain ⟨mem, rfl⟩ := (long?_ofList_eq_some_iff distinct).mp found
      have spelled : word = "--" ++ form.name ++ "=" ++ .ofList value :=
        String.toList_inj.mp (by simp [shape])
      subst spelled
      by_cases takes : form.value = none
      · rw [longForm, split] at ok
        simp only [found, takes] at ok
        cases ok
      · exact ⟨_, none, .equals mem takes (.ofList value)⟩

/-- A word that is read, and does not end the options and is none itself, stands for options. -/
theorem dashed_of_word (distinct : grammar.Distinct)
    (ok : grammar.word ⟨given, .nothing, hadOperand, false⟩ word = .ok next) :
    word = "--" ∨ IsPlain word ∨ ∃ options waits, Dashed grammar word options waits := by
  rcases word_cases word with dashes | ⟨c, cs, shape⟩ | ⟨c, cs, other, shape⟩ | plain
  · exact .inl dashes
  · rw [word_of_long rfl shape] at ok
    exact .inr (.inr (exists_dashed_of_longForm distinct shape ok))
  · rw [word_of_letters rfl other shape] at ok
    obtain ⟨options, waits, letters⟩ := exists_letters_of_shortForms distinct ok
    have spelled : word = .ofList ('-' :: c :: cs) := by rw [← shape, String.ofList_toList]
    exact .inr (.inr ⟨options, waits, spelled ▸ .letters letters⟩)
  · exact .inr (.inl plain)

/-! Words, one after the other -/

namespace Grammar

/-- Options are read where they stand. -/
theorem reads_dashed_iff (distinct : grammar.Distinct) (alone : grammar.commands = [])
    (dashed : Dashed grammar word options waits) :
    grammar.Reads ⟨given, .nothing, hadOperand, false⟩ (word :: words) total ↔
      given.Takes grammar options ∧ grammar.Reads
        ⟨given.adding options, .after waits, hadOperand, false⟩ words total := by
  simp only [reads_cons alone, dashed.word_eq_ok_iff distinct]
  constructor
  · rintro ⟨_, ⟨takes, rfl⟩, reads⟩
    exact ⟨takes, reads⟩
  · rintro ⟨takes, reads⟩
    exact ⟨_, ⟨takes, rfl⟩, reads⟩

/-- A value is read once it is there. -/
theorem reads_value_iff (distinct : grammar.Distinct) (alone : grammar.commands = [])
    (mem : form ∈ grammar.options) (plain : IsPlain word) :
    grammar.Reads ⟨given, .waiting form, hadOperand, false⟩ (word :: words) total ↔
      given.Takes grammar [(form.name, word)] ∧ grammar.Reads
        ⟨given.adding [(form.name, word)], .nothing, hadOperand, false⟩ words total := by
  rw [reads_cons alone, word_of_plain rfl plain]
  simp only [plainWord, Except.ok.injEq, exists_eq_left']
  rw [reads_iff_settle alone (by simp)]
  simp only [Scan.settle]
  constructor
  · rintro ⟨_, taken, reads⟩
    obtain ⟨takes, rfl⟩ := (Scan.take_eq_ok_iff distinct mem).mp taken
    exact ⟨takes, reads⟩
  · rintro ⟨takes, reads⟩
    exact ⟨_, (Scan.take_eq_ok_iff distinct mem).mpr ⟨takes, rfl⟩, reads⟩

/-- An operand is read if there may be one and none was there before. -/
theorem reads_operand_iff (alone : grammar.commands = []) (plain : IsPlain word) :
    grammar.Reads ⟨given, .nothing, hadOperand, false⟩ (word :: words) total ↔
      ∃ kind, grammar.operand = some kind ∧ hadOperand = false ∧ kind.check word = .ok () ∧
        grammar.Reads ⟨{ given with operand := some word }, .nothing, true, false⟩ words total := by
  rw [reads_cons alone, word_of_plain rfl plain]
  have free : ∀ form, (⟨given, .nothing, hadOperand, false⟩ : Scan).pending ≠ .waiting form := by
    simp
  have begun (kind : ValueKind) :
      grammar.Reads ⟨given, .operand kind word, true, false⟩ words total ↔
        kind.check word = .ok () ∧ grammar.Reads
          ⟨{ given with operand := some word }, .nothing, true, false⟩ words total := by
    rw [reads_iff_settle alone (by simp)]
    simp only [Scan.settle]
    cases kind.check word with
    | error fault => simp [bind, Except.bind]
    | ok => simp [bind, Except.bind, pure, Except.pure]
  simp only [plainWord_eq_ok_iff free, Scan.settle_of_nothing]
  constructor
  · rintro ⟨_, ⟨kind, takes, first, ⟨⟩⟩, reads⟩
    exact ⟨kind, takes, first, (begun kind).mp reads⟩
  · rintro ⟨kind, takes, first, reads⟩
    exact ⟨_, ⟨kind, takes, first, rfl⟩, (begun kind).mpr reads⟩

end Grammar

/-- Words are read just if what they stand for can be given, and that is what is given then. -/
theorem Spells.reads_iff (distinct : grammar.Distinct) (alone : grammar.commands = [])
    (spells : Spells grammar waits words line) (known : ∀ form ∈ waits, form ∈ grammar.options)
    (given : Given) (hadOperand : Bool) :
    grammar.Reads ⟨given, .after waits, hadOperand, false⟩ words total ↔
      line.Fits grammar given hadOperand ∧ line.after given = total := by
  induction spells generalizing given hadOperand with
  | nil =>
    have fits : Line.Fits grammar given hadOperand ⟨[], [], []⟩ := ⟨Given.takes_nil, .inl rfl, .inl rfl⟩
    simp [Pending.after, reads_nil, Scan.settle_of_nothing, fits, Line.after]
  | passedOn words =>
    have fits : Line.Fits grammar given hadOperand ⟨[], [], words⟩ ↔
        words = [] ∨ grammar.passesOn = true :=
      ⟨fun h => h.passedOn, fun h => ⟨Given.takes_nil, .inl rfl, h⟩⟩
    rw [Pending.after, reads_cons alone, word_of_dashes rfl, fits]
    simp [reads_passed alone, Line.after]
  | @value form word words line plain rest ih =>
    have first : Line.mk ((form.name, word) :: line.options) line.operands line.passedOn =
        { line with options := [(form.name, word)] ++ line.options } := rfl
    rw [Pending.after, reads_value_iff distinct alone (known form rfl) plain, first,
      Line.fits_options, Line.after_options, and_assoc]
    exact and_congr_right fun _ => ih nofun _ _
  | @operand word words line plain rest ih =>
    have rest' := ih nofun { given with operand := some word } true
    rw [Pending.after] at rest'
    rw [Pending.after, reads_operand_iff alone plain, Line.fits_operand]
    constructor
    · rintro ⟨kind, takes, first, checked, reads⟩
      obtain ⟨fits, same⟩ := rest'.mp reads
      exact ⟨⟨kind, takes, first, checked, fits⟩, (Line.after_operand fits).trans same⟩
    · rintro ⟨⟨kind, takes, first, checked, fits⟩, same⟩
      exact ⟨kind, takes, first, checked,
        rest'.mpr ⟨fits, (Line.after_operand fits).symm.trans same⟩⟩
  | @dashed word words line options waits dashed rest ih =>
    rw [Pending.after, reads_dashed_iff distinct alone dashed, ih dashed.known, Line.fits_options,
      Line.after_options, and_assoc]

/-- Words that are read stand for something. -/
theorem exists_spells_of_reads (distinct : grammar.Distinct) (alone : grammar.commands = [])
    (known : ∀ form ∈ waits, form ∈ grammar.options)
    (reads : grammar.Reads ⟨given, .after waits, hadOperand, false⟩ words total) :
    ∃ line, Spells grammar waits words line := by
  have noneWaits : ∀ form ∈ (none : Option OptionForm), form ∈ grammar.options := nofun
  induction words generalizing given waits hadOperand with
  | nil =>
    cases waits with
    | none => exact ⟨_, .nil⟩
    | some form =>
      obtain ⟨_, _, none', -⟩ := plain_of_reads_waiting alone reads
      cases none'
  | cons word rest ih =>
    cases waits with
    | some form =>
      obtain ⟨_, _, same, plain⟩ := plain_of_reads_waiting alone reads
      cases same
      obtain ⟨-, reads⟩ := (reads_value_iff distinct alone (known form rfl) plain).mp reads
      obtain ⟨line, spells⟩ := ih noneWaits reads
      exact ⟨_, .value plain spells⟩
    | none =>
      obtain ⟨_, ok, -⟩ := (reads_cons alone).mp reads
      rcases dashed_of_word distinct ok with rfl | plain | ⟨options, waits, dashed⟩
      · exact ⟨_, .passedOn rest⟩
      · obtain ⟨kind, -, -, -, reads⟩ := (reads_operand_iff alone plain).mp reads
        obtain ⟨line, spells⟩ := ih noneWaits reads
        exact ⟨_, .operand plain spells⟩
      · obtain ⟨-, reads⟩ := (reads_dashed_iff distinct alone dashed).mp reads
        obtain ⟨line, spells⟩ := ih dashed.known reads
        exact ⟨_, .dashed dashed spells⟩

end ProfilingSession.CommandLine
