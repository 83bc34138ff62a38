import ProfilingSession.CommandLine.Invocation
import ProfilingSession.Proofs.Fallible

/-!
# Values on a command line have been checked

Words are read one after the other, and a value that follows its option is looked at late, when the
next option comes up or at the end. Still, whatever is given in the end is the value of an option of
the grammar, and passes the check for it: each word keeps `Scan.Sound`, and so do all
(`Scan.Sound.reads`). In particular no path is empty.
-/

namespace ProfilingSession.CommandLine

variable {grammar : Grammar} {scan next : Scan} {form : OptionForm}
variable {name value : String} {given : Given}

namespace OptionForm

/-- The kind of what is noted for an option; for a switch any text will do. -/
def kind (form : OptionForm) : ValueKind :=
  form.value.getD .text

end OptionForm

/-- A value that an option of a grammar may have. -/
def Grammar.Allows (grammar : Grammar) (name value : String) : Prop :=
  ∃ form ∈ grammar.options, form.name = name ∧ form.kind.check value = .ok ()

/-- What was begun belongs to an option of the grammar. -/
inductive Pending.Sound (grammar : Grammar) : Pending → Prop where
  | nothing : Sound grammar .nothing
  | waiting {form : OptionForm} (mem : form ∈ grammar.options) : Sound grammar (.waiting form)
  | option {form : OptionForm} (mem : form ∈ grammar.options) (value : String) :
      Sound grammar (.option form form.kind value)
  | operand (kind : ValueKind) (value : String) : Sound grammar (.operand kind value)

/-- All options that are given have values that their grammar allows. -/
def Given.Sound (grammar : Grammar) (given : Given) : Prop :=
  ∀ entry ∈ given.options, grammar.Allows entry.1 entry.2

/-- All that is given is allowed, and what was begun belongs to an option of the grammar. -/
structure Scan.Sound (grammar : Grammar) (scan : Scan) : Prop where
  given : scan.given.Sound grammar
  pending : scan.pending.Sound grammar

theorem Given.Sound.allows (h : given.Sound grammar) (found : given.value? name = some value) :
    grammar.Allows name value := by
  obtain ⟨⟨key, value'⟩, entry, rfl⟩ := Option.map_eq_some_iff.mp found
  obtain rfl : key = name := by simpa using List.find?_some entry
  exact h _ (List.mem_of_find?_eq_some entry)

namespace Scan.Sound

theorem start : Sound grammar .start := ⟨by simp [Scan.start, Given.nothing, Given.Sound], .nothing⟩

theorem take (h : Sound grammar scan) (mem : form ∈ grammar.options)
    (ok : scan.take form form.kind value = .ok next) : Sound grammar next := by
  unfold Scan.take at ok
  split at ok
  · cases ok
  obtain ⟨⟨⟩, checked, same⟩ := bind_eq_ok_iff.mp ok
  cases same
  refine ⟨fun entry mem' => ?_, h.pending⟩
  rcases List.mem_append.mp mem' with old | new
  · exact h.given entry old
  · obtain rfl := List.mem_singleton.mp new
    exact ⟨form, mem, rfl, checked⟩

theorem settle (h : Sound grammar scan) (ok : scan.settle = .ok next) : Sound grammar next := by
  obtain ⟨given, pending, hadOperand, escaped⟩ := scan
  obtain ⟨sound, begun⟩ := h
  cases begun with
  | nothing =>
    cases ok
    exact ⟨sound, .nothing⟩
  | waiting mem => cases ok
  | option mem value =>
    have settled : Sound grammar ⟨given, .nothing, hadOperand, escaped⟩ := ⟨sound, .nothing⟩
    exact settled.take mem ok
  | operand kind value =>
    obtain ⟨⟨⟩, -, same⟩ := bind_eq_ok_iff.mp ok
    cases same
    exact ⟨sound, .nothing⟩

theorem takeAttached {kind : ValueKind} (h : Sound grammar scan) (mem : form ∈ grammar.options)
    (takes : form.value = some kind) (ok : scan.takeAttached form kind value = .ok next) :
    Sound grammar next := by
  obtain ⟨settled, settles, ok⟩ := bind_eq_ok_iff.mp ok
  obtain rfl : form.kind = kind := by simp [OptionForm.kind, takes]
  exact (h.settle settles).take mem ok

theorem takeSwitch (h : Sound grammar scan) (mem : form ∈ grammar.options)
    (switch : form.value = none) (ok : scan.takeSwitch form = .ok next) : Sound grammar next := by
  obtain ⟨settled, settles, ok⟩ := bind_eq_ok_iff.mp ok
  have kind : form.kind = .text := by simp [OptionForm.kind, switch]
  exact (h.settle settles).take mem (kind ▸ ok)

theorem begin (h : Sound grammar scan) (mem : form ∈ grammar.options)
    (ok : scan.begin form = .ok next) : Sound grammar next := by
  obtain ⟨settled, settles, same⟩ := bind_eq_ok_iff.mp ok
  cases same
  exact ⟨(h.settle settles).given, .waiting mem⟩

theorem askHelp_ne_ok (scan : Scan) : scan.askHelp ≠ .ok next := by
  intro ok
  obtain ⟨_, -, failed⟩ := bind_eq_ok_iff.mp ok
  cases failed

theorem longForm (h : Sound grammar scan) {cs : List Char}
    (ok : grammar.longForm scan cs = .ok next) : Sound grammar next := by
  unfold Grammar.longForm at ok
  dsimp only at ok
  split at ok
  · next form long =>
    have mem : form ∈ grammar.options := List.mem_of_find?_eq_some long
    split at ok
    · next takes _ => exact h.takeAttached mem takes ok
    · exact h.begin mem ok
    · cases ok
    · next switch _ => exact h.takeSwitch mem switch ok
  · split at ok <;> cases ok
  · split at ok
    · exact absurd ok (askHelp_ne_ok scan)
    · cases ok

theorem shortForms (h : Sound grammar scan) {cs : List Char}
    (ok : grammar.shortForms scan cs = .ok next) : Sound grammar next := by
  induction cs generalizing scan with
  | nil =>
    cases ok
    exact h
  | cons letter rest ih =>
    rw [Grammar.shortForms] at ok
    split at ok
    · next form short =>
      have mem : form ∈ grammar.options := List.mem_of_find?_eq_some short
      split at ok
      · next takes _ => exact h.takeAttached mem takes ok
      · exact h.begin mem ok
      · next switch =>
        obtain ⟨taken, takes, ok⟩ := bind_eq_ok_iff.mp ok
        exact ih (h.takeSwitch mem switch takes) ok
    · split at ok
      · exact absurd ok (askHelp_ne_ok scan)
      · cases ok

theorem plainWord (h : Sound grammar scan) {word : String}
    (ok : grammar.plainWord scan word = .ok next) : Sound grammar next := by
  unfold Grammar.plainWord at ok
  split at ok
  · next form waits =>
    cases ok
    have mem : form ∈ grammar.options := by
      have begun := h.pending
      rw [waits] at begun
      cases begun
      assumption
    exact ⟨h.given, .option mem word⟩
  · split at ok
    · cases ok
    · obtain ⟨settled, settles, same⟩ := bind_eq_ok_iff.mp ok
      cases same
      exact ⟨(h.settle settles).given, .operand _ word⟩
  · cases ok

theorem passedWord (h : Sound grammar scan) {word : String}
    (ok : grammar.passedWord scan word = .ok next) : Sound grammar next := by
  unfold Grammar.passedWord at ok
  split at ok
  · obtain ⟨settled, settles, same⟩ := bind_eq_ok_iff.mp ok
    cases same
    exact ⟨(h.settle settles).given, (h.settle settles).pending⟩
  · cases ok

/-- A word keeps what is given allowed. -/
theorem word (h : Sound grammar scan) {word : String} (ok : grammar.word scan word = .ok next) :
    Sound grammar next := by
  unfold Grammar.word at ok
  split at ok
  · exact h.passedWord ok
  · split at ok
    · cases ok
      exact ⟨h.given, h.pending⟩
    · exact h.longForm ok
    · exact h.shortForms ok
    · exact h.plainWord ok

/-- Whatever words are read, what is given is allowed. -/
theorem reads {words : List String} {command : Option (String × List String)}
    (h : Sound grammar scan) (ok : grammar.scan scan words = .ok (next, command)) :
    Sound grammar next := by
  induction words generalizing scan with
  | nil =>
    cases ok
    exact h
  | cons word rest ih =>
    rw [Grammar.scan] at ok
    split at ok
    · cases ok
      exact h
    · obtain ⟨between, read, ok⟩ := bind_eq_ok_iff.mp ok
      exact ih (h.word read) ok

end Scan.Sound

/-- The options of a command have values that its grammar allows. -/
theorem given_sound_of_readCommand {words : List String}
    (ok : readCommand grammar [] [] words = .ok given) : given.Sound grammar := by
  obtain ⟨⟨scan, command⟩, scanned, ok⟩ := bind_eq_ok_iff.mp ok
  obtain ⟨settled, settles, ok⟩ := bind_eq_ok_iff.mp ok
  cases ok
  exact ((Scan.Sound.start.reads scanned).settle settles).given

/-- A request for all headers names a directory of specifications. -/
theorem HeaderSetLine.directory_ne_empty {words : List String} {request : HeaderSet.Request}
    (ok : HeaderSetLine.parse words = .ok request) : request.directory ≠ "" := by
  obtain ⟨⟨scan, command⟩, -, ok⟩ := bind_eq_ok_iff.mp ok
  dsimp only at ok
  split at ok
  · cases ok
  · split at ok
    · cases ok
    · obtain ⟨given, read, same⟩ := bind_eq_ok_iff.mp ok
      cases same
      cases found : given.value? "config-dir" with
      | none =>
        change HeaderSet.standardDirectory ≠ ""
        decide
      | some directory =>
        obtain ⟨form, mem, name, checked⟩ := (given_sound_of_readCommand read).allows found
        have kind : ∀ form ∈ commandGrammar.options, form.kind = .path := by decide
        rw [kind form mem, ValueKind.check] at checked
        rintro rfl
        cases checked

end ProfilingSession.CommandLine
