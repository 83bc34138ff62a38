import ProfilingSession.Document.Json.Reader
import ProfilingSession.Proofs.Fallible
import ProfilingSession.Proofs.Text.Lines

/-!
# Documents written in JSON

`IsObjectText` says how an object is written, given how its values are: keys in quotes, a colon
after each, commas between the entries, and white space between any two tokens. `Reads` says of a
text that the reader takes it for a document, whatever follows it. The reader takes a whole number
for itself by `reads_int`, and an object for its entries in their order if it does so for each of
the values, by `reads_object`.
-/

namespace ProfilingSession.Document.Json

open Text (IsDecimal)

def IsBlank (gap : List Char) : Prop :=
  ∀ c ∈ gap, isSpace c = true

/-- A character that stands for itself in a quoted text. -/
def IsPlain (c : Char) : Prop :=
  c ≠ '"' ∧ c ≠ '\\' ∧ ' ' ≤ c

instance : DecidablePred IsBlank := fun gap =>
  decidable_of_iff (gap.all isSpace = true) List.all_eq_true

instance : DecidablePred IsPlain := fun c =>
  inferInstanceAs (Decidable (c ≠ '"' ∧ c ≠ '\\' ∧ ' ' ≤ c))

/-- How an entry is written, if `isValue` says how its value is. -/
inductive IsEntryText (isValue : Document → List Char → Prop) :
    String × Document → List Char → Prop where
  | entry {key : String} {document : Document} {s beforeKey afterKey beforeValue after : List Char}
    (plain : ∀ c ∈ key.toList, IsPlain c) (value : isValue document s)
    (beforeKeyBlank : IsBlank beforeKey) (afterKeyBlank : IsBlank afterKey)
    (beforeValueBlank : IsBlank beforeValue) (afterBlank : IsBlank after) :
    IsEntryText isValue (key, document)
      (beforeKey ++ '"' :: key.toList ++ '"' :: afterKey ++ ':' :: beforeValue ++ s ++ after)

/-- How some entries are written, with the brace after them. -/
inductive IsEntriesText (isValue : Document → List Char → Prop) :
    List (String × Document) → List Char → Prop where
  | last {entry : String × Document} {s : List Char} (written : IsEntryText isValue entry s) :
    IsEntriesText isValue [entry] (s ++ ['\x7d'])
  | more {entry : String × Document} {rest : List (String × Document)} {s t : List Char}
    (written : IsEntryText isValue entry s) (others : IsEntriesText isValue rest t) :
    IsEntriesText isValue (entry :: rest) (s ++ ',' :: t)

inductive IsObjectText (isValue : Document → List Char → Prop) :
    List (String × Document) → List Char → Prop where
  | empty {gap : List Char} (blank : IsBlank gap) :
    IsObjectText isValue [] ('\x7b' :: gap ++ ['\x7d'])
  | entries {entries : List (String × Document)} {s : List Char}
    (written : IsEntriesText isValue entries s) : IsObjectText isValue entries ('\x7b' :: s)

/-- What can follow a number without going on with it. -/
def Ends (rest : List Char) : Prop :=
  ∀ c ∈ rest.head?, c.isDigit = false ∧ c ≠ '.' ∧ c ≠ 'e' ∧ c ≠ 'E'

/-- A text is taken for a document, with white space before it and whatever follows. -/
def Reads (depth : Nat) (document : Document) (s : List Char) : Prop :=
  ∀ gap bound rest, IsBlank gap → 2 * s.length ≤ bound → Ends rest →
    value depth bound (gap ++ s ++ rest) = .ok (document, rest)

variable {c : Char} {s gap rest digits : List Char} {n depth bound : Nat}

theorem forall_isPlain (all : s.all (fun c => IsPlain c) = true) : ∀ c ∈ s, IsPlain c := by
  simpa [List.all_eq_true] using all

/-! White space -/

theorem skipSpace_append (blank : IsBlank gap) (s : List Char) :
    skipSpace (gap ++ s) = skipSpace s :=
  List.dropWhile_append_of_pos blank

theorem skipSpace_cons (solid : isSpace c = false) (s : List Char) : skipSpace (c :: s) = c :: s :=
  List.dropWhile_cons_of_neg (by simp [solid])

theorem skipSpace_append_cons (blank : IsBlank gap) (solid : isSpace c = false) (s : List Char) :
    skipSpace (gap ++ c :: s) = c :: s := by
  rw [skipSpace_append blank, skipSpace_cons solid]

theorem ends_cons (other : c.isDigit = false ∧ c ≠ '.' ∧ c ≠ 'e' ∧ c ≠ 'E') (s : List Char) :
    Ends (c :: s) := by
  rintro _ ⟨⟩
  exact other

theorem ends_append (blank : IsBlank gap) (ends : Ends rest) : Ends (gap ++ rest) := by
  cases gap with
  | nil => exact ends
  | cons c more =>
    have space := blank c List.mem_cons_self
    simp only [isSpace, Bool.or_eq_true, decide_eq_true_eq] at space
    rcases space with ((rfl | rfl) | rfl) | rfl <;> exact ends_cons (by decide) _

/-! Words and quoted texts -/

theorem exactly_append (word rest : List Char) : exactly word (word ++ rest) = .ok rest := by
  induction word with
  | nil => rw [List.nil_append, exactly]
  | cons c more ih => rw [List.cons_append, exactly, if_pos rfl, ih]

theorem textBody_append (plain : ∀ c ∈ s, IsPlain c) (long : s.length < bound) (rest : List Char) :
    textBody bound (s ++ '"' :: rest) = .ok (s, rest) := by
  induction s generalizing bound with
  | nil =>
    obtain ⟨bound, rfl⟩ := Nat.exists_eq_add_one_of_ne_zero (Nat.ne_zero_of_lt long)
    rw [List.nil_append, textBody, if_pos rfl]
  | cons c more ih =>
    obtain ⟨bound, rfl⟩ := Nat.exists_eq_add_one_of_ne_zero (Nat.ne_zero_of_lt long)
    obtain ⟨⟨notQuote, notBackslash, printed⟩, plain⟩ := List.forall_mem_cons.mp plain
    rw [List.cons_append, textBody, if_neg notQuote, if_neg notBackslash,
      if_neg (Char.not_lt.mpr printed), ih plain (Nat.lt_of_succ_lt_succ long)]
    rfl

theorem quotedText_append {key : String} (plain : ∀ c ∈ key.toList, IsPlain c) (rest : List Char) :
    quotedText (key.toList ++ '"' :: rest) = .ok (key, rest) := by
  rw [quotedText, textBody_append plain (by rw [List.length_append]; omega)]
  simp [bind, Except.bind, pure, Except.pure]

theorem colon_append (blank : IsBlank gap) (rest : List Char) :
    colon (gap ++ ':' :: rest) = .ok rest := by
  rw [colon, skipSpace_append_cons blank rfl]
  rfl

/-! Numbers -/

theorem le_ofDigitChars (digits : List Char) (n : Nat) : n ≤ Nat.ofDigitChars 10 digits n := by
  induction digits generalizing n with
  | nil => exact Nat.le_refl n
  | cons c more ih =>
    rw [Nat.ofDigitChars_cons]
    exact Nat.le_trans (by omega) (ih _)

theorem moreDigits_of_ends (ends : startsWithDigit rest = false) (n count : Nat) :
    moreDigits n count rest = (n, count, rest) := by
  cases rest with
  | nil => rfl
  | cons c more =>
    rw [startsWithDigit] at ends
    simp [moreDigits, ends]

theorem moreDigits_append {count : Nat} (all : ∀ c ∈ digits, c.isDigit = true)
    (fits : Nat.ofDigitChars 10 digits n ≤ greatestWord) (ends : startsWithDigit rest = false) :
    moreDigits n count (digits ++ rest) =
      (Nat.ofDigitChars 10 digits n, count + digits.length, rest) := by
  induction digits generalizing n count with
  | nil => rw [List.nil_append, moreDigits_of_ends ends, Nat.ofDigitChars_nil]; rfl
  | cons c more ih =>
    obtain ⟨digit, all⟩ := List.forall_mem_cons.mp all
    have next : n * 10 + digitValue c = 10 * n + (c.toNat - '0'.toNat) := by
      rw [digitValue, Nat.mul_comm]
    rw [Nat.ofDigitChars_cons] at fits ⊢
    have small := Nat.le_trans (le_ofDigitChars more _) fits
    rw [List.cons_append, moreDigits, next, digit, decide_eq_true small, Bool.and_self, if_pos rfl,
      ih all fits]
    simp [Nat.add_assoc, Nat.add_comm 1]

theorem dropWhile_isDigit (ends : startsWithDigit rest = false) :
    rest.dropWhile Char.isDigit = rest := by
  cases rest with
  | nil => rfl
  | cons c more => exact List.dropWhile_cons_of_neg (by simpa [startsWithDigit] using ends)

/-- The whole digits of a number are read first, and then what follows them. -/
theorem unsignedNumber_append (decimal : IsDecimal digits n) (fits : n ≤ greatestWord)
    (ends : startsWithDigit rest = false) (negative : Bool) :
    unsignedNumber negative (digits ++ rest) = afterDigits negative n 0 rest := by
  obtain ⟨read, zero⟩ := decimal
  obtain ⟨⟨nonempty, all⟩, same⟩ := Option.ite_none_right_eq_some.mp read
  obtain rfl := Option.some.inj same
  cases digits with
  | nil => exact absurd rfl nonempty
  | cons c more =>
    rw [List.cons_append, unsignedNumber]
    by_cases isZero : c = '0'
    · subst isZero
      obtain rfl : more = [] := by simpa using zero rfl
      rw [if_pos rfl, List.nil_append, ends]
      rfl
    · obtain ⟨digit, all⟩ := List.forall_mem_cons.mp (List.all_eq_true.mp all)
      have first : 10 * 0 + (c.toNat - '0'.toNat) = digitValue c := by
        rw [digitValue, Nat.mul_zero, Nat.zero_add]
      rw [Nat.ofDigitChars_cons, first] at fits ⊢
      rw [if_neg isZero, if_pos digit, moreDigits_append all fits ends]
      simp only [dropWhile_isDigit ends, Nat.sub_self, if_pos]

theorem startsWithDigit_of_ends (ends : Ends rest) : startsWithDigit rest = false := by
  cases rest with
  | nil => rfl
  | cons c more => exact (ends c rfl).1

theorem afterDigits_of_ends (ends : Ends rest) (negative : Bool) (n : Nat) :
    afterDigits negative n 0 rest =
      if !negative then .ok (.int n, rest)
      else if 0 < n && n ≤ Nat.pow 2 63 then .ok (.int (-n), rest)
      else .ok (.float ⟨true, Decimal.Binary64.nearest n 1⟩, rest) := by
  unfold afterDigits
  split
  · exact absurd rfl (ends _ rfl).2.1
  · exact absurd rfl (ends _ rfl).2.2.1
  · exact absurd rfl (ends _ rfl).2.2.2
  · rw [if_neg (not_not_intro rfl)]

/-! Values -/

theorem reads_null (depth : Nat) : Reads depth .null ['n', 'u', 'l', 'l'] := by
  intro gap bound rest blank long ends
  obtain ⟨bound, rfl⟩ := Nat.exists_eq_add_one_of_ne_zero (Nat.ne_zero_of_lt long)
  rw [List.append_assoc, List.cons_append, value, skipSpace_append_cons blank rfl]
  exact bind_eq_ok_iff.mpr ⟨rest, exactly_append ['u', 'l', 'l'] rest, rfl⟩

theorem isSpace_of_isDigit (digit : c.isDigit = true) : isSpace c = false := by
  cases space : isSpace c with
  | false => rfl
  | true =>
    simp only [isSpace, Bool.or_eq_true, decide_eq_true_eq] at space
    rcases space with ((rfl | rfl) | rfl) | rfl <;> exact absurd digit (by decide)

theorem value_of_isDigit (digit : c.isDigit = true) (blank : IsBlank gap) (s : List Char) :
    value depth (bound + 1) (gap ++ c :: s) = unsignedNumber false (c :: s) := by
  rw [value, skipSpace_append_cons blank (isSpace_of_isDigit digit)]
  simp only
  split
  case h_8 => rw [if_pos digit]
  all_goals exact absurd digit (by decide)

/-- A text that starts with a digit is read as a number. -/
theorem reads_of_unsignedNumber {document : Document} (digit : c.isDigit = true)
    (number : ∀ rest, Ends rest → unsignedNumber false (c :: s ++ rest) = .ok (document, rest))
    (depth : Nat) : Reads depth document (c :: s) := by
  intro gap bound rest blank long ends
  obtain ⟨bound, rfl⟩ := Nat.exists_eq_add_one_of_ne_zero (Nat.ne_zero_of_lt long)
  rw [List.append_assoc, List.cons_append, value_of_isDigit digit blank]
  exact number rest ends

theorem exists_cons_of_isDecimal (decimal : IsDecimal digits n) :
    ∃ c more, digits = c :: more ∧ c.isDigit = true := by
  obtain ⟨⟨nonempty, all⟩, -⟩ := Option.ite_none_right_eq_some.mp decimal.1
  obtain ⟨c, more, rfl⟩ := List.exists_cons_of_ne_nil nonempty
  exact ⟨c, more, rfl, List.all_eq_true.mp all c List.mem_cons_self⟩

theorem reads_int (decimal : IsDecimal digits n) (fits : n ≤ greatestWord) (depth : Nat) :
    Reads depth (.int n) digits := by
  obtain ⟨c, more, rfl, digit⟩ := exists_cons_of_isDecimal decimal
  refine reads_of_unsignedNumber digit (fun rest ends => ?_) depth
  rw [unsignedNumber_append decimal fits (startsWithDigit_of_ends ends), afterDigits_of_ends ends]
  rfl

/-! Objects -/

theorem entries_close (blank : IsBlank gap) (first : Bool) (rest : List Char) :
    entries depth (bound + 1) first (gap ++ '\x7d' :: rest) = .ok ([], rest) := by
  rw [entries, skipSpace_append_cons blank rfl]
  rfl

theorem entries_quote (blank : IsBlank gap) (s : List Char) :
    entries depth (bound + 1) true (gap ++ '"' :: s) = entry depth bound s := by
  rw [entries, skipSpace_append_cons blank rfl]
  rfl

theorem entries_comma {before : List Char} (before_blank : IsBlank before) (blank : IsBlank gap)
    (s : List Char) :
    entries depth (bound + 1) false (before ++ ',' :: (gap ++ '"' :: s)) = entry depth bound s := by
  have comma := skipSpace_append_cons before_blank (rfl : isSpace ',' = false)
  have quote := skipSpace_append_cons blank (rfl : isSpace '"' = false)
  simp [entries, comma, quote]

theorem entry_append {key : String} {document : Document} {others : List (String × Document)}
    {afterKey beforeValue tail : List Char} (plain : ∀ c ∈ key.toList, IsPlain c)
    (afterBlank : IsBlank afterKey) (beforeBlank : IsBlank beforeValue)
    (reads : Reads depth document s) (long : 2 * s.length ≤ bound) (ends : Ends tail)
    (further : entries depth bound false tail = .ok (others, rest)) :
    entry depth (bound + 1)
        (key.toList ++ '"' :: (afterKey ++ ':' :: (beforeValue ++ s ++ tail))) =
      .ok ((key, document) :: others, rest) := by
  rw [entry]
  refine bind_eq_ok_iff.mpr ⟨_, quotedText_append plain _, ?_⟩
  refine bind_eq_ok_iff.mpr ⟨_, colon_append afterBlank _, ?_⟩
  refine bind_eq_ok_iff.mpr ⟨_, reads beforeValue bound tail beforeBlank long ends, ?_⟩
  exact bind_eq_ok_iff.mpr ⟨_, further, rfl⟩

variable {isValue : Document → List Char → Prop} {found : List (String × Document)}

/-- Entries start with the quote of a key, and from there they are read as far as the brace. -/
theorem exists_entry_eq_of_isEntriesText
    (each : ∀ entry ∈ found, ∀ s, isValue entry.2 s → Reads depth entry.2 s)
    (written : IsEntriesText isValue found s) :
    ∃ gap t, s = gap ++ '"' :: t ∧ IsBlank gap ∧ ∀ bound rest, 2 * t.length ≤ bound →
      entry depth bound (t ++ rest) = .ok (found, rest) := by
  induction written with
  | last written =>
    obtain @⟨key, document, s, beforeKey, afterKey, beforeValue, after, plain, value,
      beforeKeyBlank, afterKeyBlank, beforeValueBlank, afterBlank⟩ := written
    refine ⟨beforeKey, key.toList ++ '"' :: (afterKey ++ ':' :: (beforeValue ++ s ++
      (after ++ ['\x7d']))), by simp, beforeKeyBlank, ?_⟩
    intro bound rest long
    simp only [List.length_append, List.length_cons, List.length_nil] at long
    obtain ⟨bound, rfl⟩ : ∃ less, bound = less + 2 := ⟨bound - 2, by omega⟩
    have reads := each _ List.mem_cons_self s value
    have step := entry_append plain afterKeyBlank beforeValueBlank reads
      (by omega : 2 * s.length ≤ bound + 1) (ends_append afterBlank (ends_cons (by decide) _))
      (entries_close afterBlank false rest)
    simpa using step
  | more written others ih =>
    obtain @⟨key, document, s, beforeKey, afterKey, beforeValue, after, plain, value,
      beforeKeyBlank, afterKeyBlank, beforeValueBlank, afterBlank⟩ := written
    obtain ⟨reads, each⟩ := List.forall_mem_cons.mp each
    have reads := reads s value
    obtain ⟨gap, t, rfl, gapBlank, further⟩ := ih each
    refine ⟨beforeKey, key.toList ++ '"' :: (afterKey ++ ':' :: (beforeValue ++ s ++
      (after ++ ',' :: (gap ++ '"' :: t)))), by simp, beforeKeyBlank, ?_⟩
    intro bound rest long
    simp only [List.length_append, List.length_cons] at long
    obtain ⟨bound, rfl⟩ : ∃ less, bound = less + 2 := ⟨bound - 2, by omega⟩
    have others' := further bound rest (by omega)
    rw [← entries_comma afterBlank gapBlank] at others'
    have step := entry_append plain afterKeyBlank beforeValueBlank reads
      (by omega : 2 * s.length ≤ bound + 1) (ends_append afterBlank (ends_cons (by decide) _)) others'
    simpa using step

theorem reads_object (positive : 0 < depth)
    (each : ∀ entry ∈ found, ∀ s, isValue entry.2 s → Reads depth entry.2 s)
    (written : IsObjectText isValue found s) : Reads (depth + 1) (.mapping found) s := by
  intro gap bound rest blank long ends
  have deep : ¬ depth + 1 ≤ 1 := by omega
  cases written with
  | @empty inner innerBlank =>
    simp only [List.length_append, List.length_cons, List.length_nil] at long
    obtain ⟨bound, rfl⟩ : ∃ less, bound = less + 2 := ⟨bound - 2, by omega⟩
    have closed : entries depth (bound + 1) true (inner ++ '\x7d' :: rest) = .ok ([], rest) :=
      entries_close innerBlank true rest
    rw [List.append_assoc, List.cons_append, List.cons_append, value,
      skipSpace_append_cons blank rfl]
    simp only [if_neg deep]
    refine bind_eq_ok_iff.mpr ⟨([], rest), ?_, rfl⟩
    simpa using closed
  | entries written =>
    obtain ⟨inner, t, rfl, innerBlank, further⟩ := exists_entry_eq_of_isEntriesText each written
    simp only [List.length_append, List.length_cons] at long
    obtain ⟨bound, rfl⟩ : ∃ less, bound = less + 2 := ⟨bound - 2, by omega⟩
    have read := further bound rest (by omega)
    rw [← entries_quote innerBlank] at read
    rw [List.append_assoc, List.cons_append, value, skipSpace_append_cons blank rfl]
    simp only [if_neg deep]
    refine bind_eq_ok_iff.mpr ⟨(found, rest), ?_, rfl⟩
    simpa using read

/-- Entries can be written if their keys are plain and their values can be written. -/
theorem exists_isObjectText
    (each : ∀ entry ∈ found, (∀ c ∈ entry.1.toList, IsPlain c) ∧ ∃ s, isValue entry.2 s) :
    ∃ s, IsObjectText isValue found s := by
  have entries : found ≠ [] → ∃ s, IsEntriesText isValue found s := by
    induction found with
    | nil => exact absurd rfl
    | cons entry rest ih =>
      intro _
      obtain ⟨⟨plain, s, value⟩, each⟩ := List.forall_mem_cons.mp each
      have written : IsEntryText isValue entry
          ([] ++ '"' :: entry.1.toList ++ '"' :: [] ++ ':' :: [] ++ s ++ []) :=
        .entry plain value (by decide) (by decide) (by decide) (by decide)
      cases rest with
      | nil => exact ⟨_, .last written⟩
      | cons other rest =>
        obtain ⟨t, others⟩ := ih each (by simp)
        exact ⟨_, .more written others⟩
  cases found with
  | nil => exact ⟨_, .empty (List.forall_mem_nil _ : IsBlank [])⟩
  | cons entry rest =>
    obtain ⟨s, written⟩ := entries (by simp)
    exact ⟨_, .entries written⟩

/-- A text is read as the document that it is taken for, with white space around it. -/
theorem read_of_reads {text : String} {document : Document} {before after : List Char}
    (reads : Reads depthLimit document s) (beforeBlank : IsBlank before)
    (afterBlank : IsBlank after) (whole : text.toList = before ++ s ++ after) :
    Json.read text = .ok document := by
  have rest : skipSpace after = [] := by
    rw [← List.append_nil after, skipSpace_append afterBlank]
    rfl
  have value := reads before (3 * text.toList.length + 1) after beforeBlank
    (by rw [whole]; simp only [List.length_append]; omega) (by
      rw [← List.append_nil after]
      exact ends_append afterBlank nofun)
  have chars : readChars text.toList = .ok document := by
    refine bind_eq_ok_iff.mpr ⟨(document, after), whole ▸ value, ?_⟩
    simp only [rest]
    rfl
  rw [Json.read, chars]

end ProfilingSession.Document.Json
