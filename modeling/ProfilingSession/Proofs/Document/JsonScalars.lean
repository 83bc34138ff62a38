import Mathlib.Algebra.Group.Int.Defs
import ProfilingSession.Proofs.Document.JsonNumbers
import ProfilingSession.Proofs.Document.JsonText

/-!
# Scalars written in JSON

Besides null and the whole numbers without sign: texts in quotes, negative numbers, and the numbers
with a fraction or an exponent. Of the last it is said how they are written, by `IsNumberText`, and
that the reader takes each of them for some number, by `IsNumberText.exists_reads`; digits that it
leaves out and exponents that are far below zero are among them, and only exponents far above zero
are not. `IsValueText` puts the scalars together, with the objects of them.
-/

namespace ProfilingSession.Document.Json

open Decimal (Binary64)
open Text (IsDecimal readNumber)

/-- How the fraction of a number is written, if there is one. -/
inductive IsFractionText : List Char → Prop where
  | none : IsFractionText []
  | digits {digits : List Char} {n : Nat} (read : readNumber digits = some n) :
    IsFractionText ('.' :: digits)

/-- How the exponent of a number is written, if there is one. One that makes the number greater does
so by 64 places at most. -/
inductive IsExponentText : List Char → Prop where
  | none : IsExponentText []
  | up {digits : List Char} {n : Nat} (read : readNumber digits = some n) (small : n ≤ 64) :
    IsExponentText ('e' :: '+' :: digits)
  | down {digits : List Char} {n : Nat} (read : readNumber digits = some n) :
    IsExponentText ('e' :: '-' :: digits)

/-- How a number with a fraction or an exponent is written. -/
inductive IsNumberText : List Char → Prop where
  | number {whole fraction exponent : List Char} {n : Nat} (decimal : IsDecimal whole n)
    (fits : n ≤ greatestWord) (isFraction : IsFractionText fraction)
    (isExponent : IsExponentText exponent) (more : fraction ++ exponent ≠ []) :
    IsNumberText (whole ++ (fraction ++ exponent))

/-- How a scalar is written. A number with a fraction or an exponent is the one that is read. -/
inductive IsScalarText : Document → List Char → Prop where
  | null : IsScalarText .null ['n', 'u', 'l', 'l']
  | int {digits : List Char} {n : Nat} (decimal : IsDecimal digits n) (fits : n ≤ greatestWord) :
    IsScalarText (.int n) digits
  | negative {digits : List Char} {n : Nat} (decimal : IsDecimal digits n) (positive : 0 < n)
    (fits : n ≤ 2 ^ 63) : IsScalarText (.int (-n)) ('-' :: digits)
  | text {content : String} (plain : ∀ c ∈ content.toList, IsPlain c) :
    IsScalarText (.text content) ('"' :: content.toList ++ ['"'])
  | number {x : Binary64} {s : List Char} (written : IsNumberText s)
    (read : Json.read (String.ofList s) = .ok (.float x)) : IsScalarText (.float x) s

/-- How a scalar or an object of scalars is written. -/
inductive IsValueText : Document → List Char → Prop where
  | scalar {document : Document} {s : List Char} (written : IsScalarText document s) :
    IsValueText document s
  | mapping {entries : List (String × Document)} {s : List Char}
    (written : IsObjectText IsScalarText entries s) : IsValueText (.mapping entries) s

variable {document : Document} {s rest digits : List Char} {n significand depth : Nat}
variable {negative : Bool} {exponent : Int}

/-! Texts and negative numbers -/

theorem reads_text {content : String} (plain : ∀ c ∈ content.toList, IsPlain c) (depth : Nat) :
    Reads depth (.text content) ('"' :: content.toList ++ ['"']) := by
  intro gap bound rest blank long ends
  obtain ⟨bound, rfl⟩ := Nat.exists_eq_add_one_of_ne_zero (Nat.ne_zero_of_lt long)
  rw [List.append_assoc, List.cons_append, List.cons_append, value,
    skipSpace_append_cons blank rfl]
  refine bind_eq_ok_iff.mpr ⟨(content, rest), ?_, rfl⟩
  simpa using quotedText_append plain rest

theorem reads_negative (decimal : IsDecimal digits n) (positive : 0 < n) (fits : n ≤ 2 ^ 63)
    (depth : Nat) : Reads depth (.int (-n)) ('-' :: digits) := by
  intro gap bound rest blank long ends
  obtain ⟨bound, rfl⟩ := Nat.exists_eq_add_one_of_ne_zero (Nat.ne_zero_of_lt long)
  have word : n ≤ greatestWord := Nat.le_trans fits (by decide)
  have small : (0 < n && n ≤ Nat.pow 2 63) = true := by simpa [positive] using fits
  rw [List.append_assoc, List.cons_append, value, skipSpace_append_cons blank rfl]
  simp only
  rw [unsignedNumber_append decimal word (startsWithDigit_of_ends ends), afterDigits_of_ends ends,
    small]
  rfl

/-! Numbers with a fraction or an exponent -/

theorem exists_scale (fits : significand ≤ greatestWord) (small : exponent ≤ 64) :
    ∃ magnitude, scale significand exponent = some magnitude := by
  simp only [scale]
  split
  · exact ⟨_, rfl⟩
  · have power : Nat.pow 10 exponent.toNat < 2 ^ 213 :=
      Nat.lt_of_le_of_lt (Nat.pow_le_pow_right (by decide) (by omega : exponent.toNat ≤ 64))
        (by decide)
    have product := Binary64.product_le 1300 (moderate_nearest fits)
      (Binary64.nearest_one_le 213 power) (by decide)
    have finite : 1302 * 2 ^ 52 < Binary64.infinite := by decide
    rw [if_neg (by omega), if_neg (by omega)]
    exact ⟨_, rfl⟩

theorem exists_finish (fits : significand ≤ greatestWord) (small : exponent ≤ 64)
    (negative : Bool) :
    ∃ x, ∀ rest, finish negative significand exponent rest = .ok (.float x, rest) := by
  obtain ⟨magnitude, scaled⟩ := exists_scale fits small
  exact ⟨⟨negative, magnitude⟩, fun rest => by rw [finish, scaled]⟩

theorem exponentDigits_of_le (all : ∀ c ∈ digits, c.isDigit = true)
    (reach : Nat.ofDigitChars 10 digits n ≤ greatestExponent)
    (ends : startsWithDigit rest = false) :
    exponentDigits n (digits ++ rest) = .inl (Nat.ofDigitChars 10 digits n, rest) := by
  induction digits generalizing n with
  | nil =>
    cases rest with
    | nil => rfl
    | cons c more =>
      rw [startsWithDigit] at ends
      simp [exponentDigits, ends]
  | cons c more ih =>
    obtain ⟨digit, all⟩ := List.forall_mem_cons.mp all
    rw [Nat.ofDigitChars_cons, Nat.mul_comm] at reach ⊢
    have near := Nat.le_trans (le_ofDigitChars more _) reach
    rw [List.cons_append, exponentDigits, if_pos digit, digitValue, if_neg (Nat.not_lt.mpr near)]
    exact ih all reach

/-- An exponent out of reach is given up at one of its digits. -/
theorem exponentDigits_of_lt (all : ∀ c ∈ digits, c.isDigit = true) (start : n ≤ greatestExponent)
    (beyond : greatestExponent < Nat.ofDigitChars 10 digits n) :
    ∃ more, (∀ c ∈ more, c.isDigit = true) ∧
      ∀ rest, exponentDigits n (digits ++ rest) = .inr (more ++ rest) := by
  induction digits generalizing n with
  | nil => exact absurd beyond (Nat.not_lt.mpr start)
  | cons c more ih =>
    obtain ⟨digit, all⟩ := List.forall_mem_cons.mp all
    rw [Nat.ofDigitChars_cons, Nat.mul_comm] at beyond
    by_cases here : greatestExponent < n * 10 + digitValue c
    · refine ⟨more, all, fun rest => ?_⟩
      rw [List.cons_append, exponentDigits, if_pos digit, if_pos here]
    · obtain ⟨others, digits, given⟩ := ih all (Nat.not_lt.mp here) beyond
      refine ⟨others, digits, fun rest => ?_⟩
      rw [List.cons_append, exponentDigits, if_pos digit, if_neg here, given]

theorem exists_cons_of_readNumber (read : readNumber digits = some n) :
    ∃ c more, digits = c :: more ∧ c.isDigit = true ∧ (∀ d ∈ more, d.isDigit = true) ∧
      Nat.ofDigitChars 10 more (digitValue c) = n := by
  obtain ⟨⟨nonempty, all⟩, same⟩ := Option.ite_none_right_eq_some.mp read
  obtain ⟨c, more, rfl⟩ := List.exists_cons_of_ne_nil nonempty
  obtain ⟨digit, others⟩ := List.forall_mem_cons.mp (List.all_eq_true.mp all)
  refine ⟨c, more, rfl, digit, others, ?_⟩
  rw [← Option.some.inj same, Nat.ofDigitChars_cons, Nat.mul_zero, Nat.zero_add, digitValue]

theorem dropWhile_isDigit_append (all : ∀ c ∈ digits, c.isDigit = true)
    (ends : startsWithDigit rest = false) : (digits ++ rest).dropWhile Char.isDigit = rest := by
  rw [List.dropWhile_append_of_pos all, dropWhile_isDigit ends]

theorem exists_exponentAfterSign_up (read : readNumber digits = some n) (small : n ≤ 64)
    (fits : significand ≤ greatestWord) (most : exponent ≤ 0) (negative : Bool) :
    ∃ x, ∀ rest, startsWithDigit rest = false →
      exponentAfterSign negative significand exponent false (digits ++ rest) =
        .ok (.float x, rest) := by
  obtain ⟨c, more, rfl, digit, all, rfl⟩ := exists_cons_of_readNumber read
  obtain ⟨x, finished⟩ := exists_finish fits
    (by omega : exponent + Nat.ofDigitChars 10 more (digitValue c) ≤ 64) negative
  refine ⟨x, fun rest ends => ?_⟩
  have reach := exponentDigits_of_le all (Nat.le_trans small (by decide)) ends
  rw [List.cons_append, exponentAfterSign, if_pos digit, reach]
  exact finished rest

theorem exists_exponentAfterSign_down (read : readNumber digits = some n)
    (fits : significand ≤ greatestWord) (most : exponent ≤ 0) (negative : Bool) :
    ∃ x, ∀ rest, startsWithDigit rest = false →
      exponentAfterSign negative significand exponent true (digits ++ rest) =
        .ok (.float x, rest) := by
  obtain ⟨c, more, rfl, digit, all, rfl⟩ := exists_cons_of_readNumber read
  by_cases reach : Nat.ofDigitChars 10 more (digitValue c) ≤ greatestExponent
  · obtain ⟨x, finished⟩ := exists_finish fits
      (by omega : exponent - Nat.ofDigitChars 10 more (digitValue c) ≤ 64) negative
    refine ⟨x, fun rest ends => ?_⟩
    rw [List.cons_append, exponentAfterSign, if_pos digit, exponentDigits_of_le all reach ends]
    exact finished rest
  · have start : digitValue c ≤ greatestExponent :=
      Nat.le_trans (Text.digit_le digit) (by decide)
    obtain ⟨others, digits, given⟩ := exponentDigits_of_lt all start (Nat.not_le.mp reach)
    refine ⟨⟨negative, 0⟩, fun rest ends => ?_⟩
    rw [List.cons_append, exponentAfterSign, if_pos digit, given]
    simp only [Bool.not_true, Bool.and_false, Bool.false_eq_true, if_false,
      dropWhile_isDigit_append digits ends]

theorem IsExponentText.startsWithDigit (written : IsExponentText s) (ends : Ends rest) :
    Json.startsWithDigit (s ++ rest) = false := by
  cases written with
  | none => exact startsWithDigit_of_ends ends
  | up => rfl
  | down => rfl

theorem exponentOrEnd_of_ends (ends : Ends rest) :
    exponentOrEnd negative significand exponent rest =
      finish negative significand exponent rest := by
  unfold exponentOrEnd
  split
  · exact absurd rfl (ends _ rfl).2.2.1
  · exact absurd rfl (ends _ rfl).2.2.2
  · rfl

/-- An exponent after a number without places before the point that are left out. -/
theorem IsExponentText.exists_exponentOrEnd (written : IsExponentText s)
    (fits : significand ≤ greatestWord) (most : exponent ≤ 0) (negative : Bool) :
    ∃ x, ∀ rest, Ends rest →
      exponentOrEnd negative significand exponent (s ++ rest) = .ok (.float x, rest) := by
  cases written with
  | none =>
    obtain ⟨x, finished⟩ := exists_finish fits (Int.le_trans most (by decide)) negative
    exact ⟨x, fun rest ends => by rw [List.nil_append, exponentOrEnd_of_ends ends, finished]⟩
  | up read small =>
    obtain ⟨x, after⟩ := exists_exponentAfterSign_up read small fits most negative
    exact ⟨x, fun rest ends => after rest (startsWithDigit_of_ends ends)⟩
  | down read =>
    obtain ⟨x, after⟩ := exists_exponentAfterSign_down read fits most negative
    exact ⟨x, fun rest ends => after rest (startsWithDigit_of_ends ends)⟩

/-- Digits are read as far as they fit; the others are left. -/
theorem exists_moreDigits (all : ∀ c ∈ digits, c.isDigit = true) (count : Nat) :
    ∃ value taken more, (∀ c ∈ more, c.isDigit = true) ∧
      taken + more.length = count + digits.length ∧
      ∀ rest, startsWithDigit rest = false →
        moreDigits n count (digits ++ rest) = (value, taken, more ++ rest) := by
  induction digits generalizing n count with
  | nil =>
    exact ⟨n, count, [], List.forall_mem_nil _, rfl,
      fun rest ends => moreDigits_of_ends ends n count⟩
  | cons c more ih =>
    obtain ⟨digit, others⟩ := List.forall_mem_cons.mp all
    by_cases small : n * 10 + digitValue c ≤ greatestWord
    · obtain ⟨value, taken, left, leftDigits, counted, given⟩ := ih others (count + 1)
      refine ⟨value, taken, left, leftDigits, by rw [counted, List.length_cons]; omega, ?_⟩
      intro rest ends
      rw [List.cons_append, moreDigits, digit, decide_eq_true small, Bool.and_self, if_pos rfl]
      exact given rest ends
    · refine ⟨n, count, c :: more, all, rfl, fun rest _ => ?_⟩
      rw [List.cons_append, moreDigits, decide_eq_false small, Bool.and_false, if_neg (by decide)]

/-- A fraction, with whatever exponent. -/
theorem exists_fractionPart (read : readNumber digits = some n) (isExponent : IsExponentText s)
    (fits : significand ≤ greatestWord) (negative : Bool) :
    ∃ x, ∀ rest, Ends rest →
      fractionPart negative significand 0 (digits ++ (s ++ rest)) = .ok (.float x, rest) := by
  obtain ⟨⟨nonempty, all⟩, -⟩ := Option.ite_none_right_eq_some.mp read
  obtain ⟨value, taken, more, left, counted, given⟩ :=
    exists_moreDigits (n := significand) (List.all_eq_true.mp all) 0
  have word : value ≤ greatestWord := by
    have bound := moreDigits_le fits 0 (digits ++ [])
    rwa [given [] rfl] at bound
  obtain ⟨x, after⟩ := isExponent.exists_exponentOrEnd word
    (by omega : ((0 : Nat) : Int) - taken ≤ 0) negative
  refine ⟨x, fun rest ends => ?_⟩
  have follows := isExponent.startsWithDigit ends
  simp only [fractionPart, given _ follows]
  cases more with
  | nil =>
    have some : taken ≠ 0 := by
      have := List.length_pos_iff.mpr nonempty
      simp only [List.length_nil] at counted
      omega
    rw [List.nil_append, follows, if_neg (by decide), if_neg some]
    exact after rest ends
  | cons c others =>
    rw [List.cons_append, Json.startsWithDigit, left c List.mem_cons_self, if_pos rfl,
      ← List.cons_append, dropWhile_isDigit_append left follows]
    exact after rest ends

theorem exists_afterDigits {fraction exponent : List Char} (fits : n ≤ greatestWord)
    (isFraction : IsFractionText fraction) (isExponent : IsExponentText exponent)
    (more : fraction ++ exponent ≠ []) (negative : Bool) :
    ∃ x, ∀ rest, Ends rest →
      afterDigits negative n 0 (fraction ++ exponent ++ rest) = .ok (.float x, rest) := by
  cases isFraction with
  | digits read =>
    obtain ⟨x, after⟩ := exists_fractionPart read isExponent fits negative
    refine ⟨x, fun rest ends => ?_⟩
    rw [List.append_assoc, List.cons_append]
    exact after rest ends
  | none =>
    obtain ⟨x, after⟩ := isExponent.exists_exponentOrEnd fits (Int.le_refl 0) negative
    refine ⟨x, fun rest ends => ?_⟩
    cases isExponent with
    | none => exact absurd rfl more
    | up => exact after rest ends
    | down => exact after rest ends

/-- A number with a fraction or an exponent is taken for a number of the format. -/
theorem IsNumberText.exists_reads (written : IsNumberText s) :
    ∃ x, ∀ depth, Reads depth (.float x) s := by
  obtain @⟨whole, fraction, exponent, n, decimal, fits, isFraction, isExponent, more⟩ := written
  obtain ⟨x, after⟩ := exists_afterDigits fits isFraction isExponent more false
  obtain ⟨c, others, rfl, digit⟩ := exists_cons_of_isDecimal decimal
  refine ⟨x, reads_of_unsignedNumber digit fun rest ends => ?_⟩
  have follows : Json.startsWithDigit (fraction ++ exponent ++ rest) = false := by
    cases isFraction with
    | none => exact isExponent.startsWithDigit ends
    | digits => rfl
  change unsignedNumber false (c :: others ++ (fraction ++ exponent) ++ rest) = _
  rw [List.append_assoc, unsignedNumber_append decimal fits follows]
  exact after rest ends

/-! Scalars and objects of them -/

theorem IsNumberText.exists_read (written : IsNumberText s) :
    ∃ x, Json.read (String.ofList s) = .ok (.float x) ∧ ∀ depth, Reads depth (.float x) s := by
  obtain ⟨x, reads⟩ := written.exists_reads
  have whole : (String.ofList s).toList = [] ++ s ++ [] := by simp
  have blank : IsBlank [] := List.forall_mem_nil _
  have read := read_of_reads (reads depthLimit) blank blank whole
  exact ⟨x, read, reads⟩

theorem IsScalarText.reads (written : IsScalarText document s) (depth : Nat) :
    Reads depth document s := by
  cases written with
  | null => exact reads_null depth
  | int decimal fits => exact reads_int decimal fits depth
  | negative decimal positive fits => exact reads_negative decimal positive fits depth
  | text plain => exact reads_text plain depth
  | number written read =>
    obtain ⟨y, read', reads⟩ := written.exists_read
    rw [read] at read'
    cases read'
    exact reads depth

theorem isScalarText_quoted {word : String} (plain : word.toList.all fun c => IsPlain c) :
    IsScalarText (.text word) ("\"" ++ word ++ "\"").toList := by
  have shape : ("\"" ++ word ++ "\"").toList = '"' :: word.toList ++ ['"'] := by simp
  rw [shape]
  exact .text (forall_isPlain plain)

theorem isScalarText_toString {n : Int} (least : -2 ^ 63 ≤ n) (greatest : n ≤ greatestWord) :
    IsScalarText (.int n) (toString n).toList := by
  cases n with
  | ofNat n => exact .int (Text.isDecimal_toString n) (Int.ofNat_le.mp greatest)
  | negSucc n =>
    have fits : n + 1 ≤ 2 ^ 63 := by omega
    change IsScalarText (.int (-(n + 1 : Nat))) ("-" ++ toString (n + 1)).toList
    rw [String.toList_append]
    exact .negative (Text.isDecimal_toString (n + 1)) (Nat.succ_pos n) fits

theorem IsValueText.reads (written : IsValueText document s) (positive : 0 < depth) :
    Reads (depth + 1) document s := by
  cases written with
  | scalar written => exact written.reads (depth + 1)
  | mapping written => exact reads_object positive (fun _ _ _ scalar => scalar.reads depth) written

end ProfilingSession.Document.Json
