import ProfilingSession.Document.Json.Reader
import ProfilingSession.Proofs.Decimal.Range
import ProfilingSession.Proofs.Document.Finite
import ProfilingSession.Proofs.Fallible
import ProfilingSession.Proofs.Text.Lines

/-!
# The numbers of a JSON text are finite

A number whose magnitude is too great for the format is refused, so that every number of a document
that was read from a JSON text is finite. The digits that are kept of a number fit into 64 bits.
What they stand for is below `2 ^ 64`, a division makes it smaller, give or take the rounding, and
of a product it is looked at whether it is too great.
-/

namespace ProfilingSession.Document.Json

open Decimal (Binary64)

variable {significand exponent magnitude depth bound : Nat} {negative first : Bool}
variable {s rest : List Char} {document : Document}

/-! Magnitudes -/

theorem zero_lt_infinite : 0 < Binary64.infinite := by
  decide

/-- A magnitude of at most about `2 ^ 64`, so that dividing it leaves it finite. -/
def Moderate (magnitude : Nat) : Prop :=
  magnitude ≤ 1087 * 2 ^ 52

theorem Moderate.lt_infinite (h : Moderate magnitude) : magnitude < Binary64.infinite :=
  Nat.lt_of_le_of_lt h (by decide)

theorem moderate_nearest (fits : significand ≤ greatestWord) :
    Moderate (Binary64.nearest significand 1) :=
  Binary64.nearest_one_le 64 (Nat.lt_of_le_of_lt fits (by decide))

/-- The step of a long division takes away as much as the rounding adds. -/
theorem Moderate.quotient_greatPower (h : Moderate magnitude) :
    Moderate (Binary64.quotient magnitude greatPower) := by
  have great : 2 ^ 1 * Binary64.unit ≤ Binary64.scaled greatPower :=
    Binary64.two_pow_mul_unit_le (by decide +kernel) (by decide)
  exact Binary64.quotient_le 1084 1 h great

theorem divideByPower_le (h : Moderate magnitude) :
    divideByPower magnitude exponent ≤ 1088 * 2 ^ 52 := by
  induction magnitude, exponent using divideByPower.induct with
  | case1 magnitude exponent small =>
    rw [divideByPower, if_pos small]
    have great : 2 ^ 0 * Binary64.unit ≤
        Binary64.scaled (Binary64.nearest (Nat.pow 10 exponent) 1) :=
      Binary64.two_pow_mul_unit_le (Nat.pow_pos (by decide)) (by decide)
    exact Binary64.quotient_le 1085 0 h great
  | case2 exponent great =>
    rw [divideByPower, if_neg great, if_pos rfl]
    exact Nat.zero_le _
  | case3 magnitude exponent great nonzero ih =>
    rw [divideByPower, if_neg great, if_neg nonzero]
    exact ih h.quotient_greatPower

theorem scale_lt {exponent : Int} (fits : significand ≤ greatestWord)
    (scaled : scale significand exponent = some magnitude) : magnitude < Binary64.infinite := by
  have great : 1088 * 2 ^ 52 < Binary64.infinite := by decide
  have moderate := moderate_nearest fits
  simp only [scale] at scaled
  split at scaled
  · cases scaled
    exact Nat.lt_of_le_of_lt (divideByPower_le moderate) great
  · split at scaled
    · split at scaled
      · cases scaled
        exact zero_lt_infinite
      · cases scaled
    · split at scaled
      · cases scaled
      · next ne =>
        rw [← Option.some.inj scaled]
        exact Nat.lt_of_le_of_ne (Binary64.nearest_le_infinite _ _) ne

/-! Numbers -/

theorem moreDigits_le {value : Nat} (fits : value ≤ greatestWord) (count : Nat) (s : List Char) :
    (moreDigits value count s).1 ≤ greatestWord := by
  induction s generalizing value count with
  | nil => exact fits
  | cons c rest ih =>
    rw [moreDigits]
    split
    · next digit =>
      simp only [Bool.and_eq_true, decide_eq_true_eq] at digit
      exact ih digit.2 _
    · exact fits

/-- What a reader gives is made of finite numbers. -/
def GivesFinite (read : Except Fault (Document × List Char)) : Prop :=
  ∀ document rest, read = .ok (document, rest) → document.Finite

theorem givesFinite_error (fault : Fault) : GivesFinite (.error fault) :=
  fun _ _ => nofun

theorem givesFinite_ok (finite : document.Finite) (rest : List Char) :
    GivesFinite (.ok (document, rest)) := by
  rintro _ _ ⟨⟩
  exact finite

theorem givesFinite_float {x : Binary64} (finite : x.magnitude < Binary64.infinite)
    (rest : List Char) : GivesFinite (.ok (.float x, rest)) :=
  givesFinite_ok (finite_float_iff.mpr (decide_eq_true finite)) rest

theorem givesFinite_bind {α : Type} {one : Except Fault α}
    {next : α → Except Fault (Document × List Char)}
    (h : ∀ between, one = .ok between → GivesFinite (next between)) :
    GivesFinite (one >>= next) := by
  intro document rest read
  obtain ⟨between, done, read⟩ := bind_eq_ok_iff.mp read
  exact h between done document rest read

theorem givesFinite_finish (fits : significand ≤ greatestWord) (exponent : Int) :
    GivesFinite (finish negative significand exponent s) := by
  unfold finish
  split
  · next magnitude scaled => exact givesFinite_float (scale_lt fits scaled) s
  · exact givesFinite_error _

theorem givesFinite_exponentAfterSign (fits : significand ≤ greatestWord) (exponent : Int)
    (down : Bool) :
    GivesFinite (exponentAfterSign negative significand exponent down s) := by
  unfold exponentAfterSign
  split
  · exact givesFinite_error _
  · split
    · split
      · exact givesFinite_finish fits _
      · split
        · exact givesFinite_error _
        · exact givesFinite_float zero_lt_infinite _
    · exact givesFinite_error _

theorem givesFinite_exponentOrEnd (fits : significand ≤ greatestWord) (exponent : Int) :
    GivesFinite (exponentOrEnd negative significand exponent s) := by
  have part : ∀ s, GivesFinite (exponentPart negative significand exponent s) := by
    intro s
    unfold exponentPart
    split <;> exact givesFinite_exponentAfterSign fits _ _
  unfold exponentOrEnd
  split
  · exact part _
  · exact part _
  · exact givesFinite_finish fits _

theorem givesFinite_fractionPart (fits : significand ≤ greatestWord) (exponent : Int) :
    GivesFinite (fractionPart negative significand exponent s) := by
  have fits' := moreDigits_le fits 0 s
  simp only [fractionPart]
  split
  · exact givesFinite_exponentOrEnd fits' _
  · split
    · exact givesFinite_error _
    · exact givesFinite_exponentOrEnd fits' _

theorem givesFinite_afterDigits (fits : significand ≤ greatestWord) (dropped : Nat) :
    GivesFinite (afterDigits negative significand dropped s) := by
  unfold afterDigits
  split
  · exact givesFinite_fractionPart fits _
  · exact givesFinite_exponentOrEnd fits _
  · exact givesFinite_exponentOrEnd fits _
  · split
    · exact givesFinite_finish fits _
    · split
      · exact givesFinite_ok (finite_int _) _
      · split
        · exact givesFinite_ok (finite_int _) _
        · refine givesFinite_float ?_ _
          exact (moderate_nearest fits).lt_infinite

theorem givesFinite_unsignedNumber : GivesFinite (unsignedNumber negative s) := by
  unfold unsignedNumber
  split
  · exact givesFinite_error _
  · next c rest =>
    split
    · split
      · exact givesFinite_error _
      · exact givesFinite_afterDigits (Nat.zero_le _) 0
    · split
      · next digit =>
        have one : digitValue c ≤ greatestWord := Nat.le_trans (Text.digit_le digit) (by decide)
        have fits := moreDigits_le one 1 rest
        simp only
        split
        · exact givesFinite_afterDigits fits 0
        · split
          · exact givesFinite_fractionPart fits _
          · exact givesFinite_exponentOrEnd fits _
      · exact givesFinite_error _

/-! Values -/

/-- Every reader of nested values gives finite numbers, with a bound on the calls to come. -/
structure ReadersGiveFinite (bound : Nat) : Prop where
  value : ∀ depth s, GivesFinite (value depth bound s)
  items : ∀ depth first s found rest, items depth bound first s = .ok (found, rest) →
    ∀ item ∈ found, item.Finite
  entries : ∀ depth first s found rest, entries depth bound first s = .ok (found, rest) →
    ∀ entry ∈ found, entry.2.Finite
  entry : ∀ depth s found rest, entry depth bound s = .ok (found, rest) →
    ∀ entry ∈ found, entry.2.Finite

theorem readersGiveFinite_zero : ReadersGiveFinite 0 where
  value _ _ := by
    rw [Json.value]
    exact givesFinite_error _
  items _ _ _ _ _ read := by
    rw [Json.items] at read
    cases read
  entries _ _ _ _ _ read := by
    rw [Json.entries] at read
    cases read
  entry _ _ _ _ read := by
    rw [Json.entry] at read
    cases read

namespace ReadersGiveFinite

variable {found : List Document} {foundEntries : List (String × Document)}

theorem value_succ (h : ReadersGiveFinite bound) (depth : Nat) (s : List Char) :
    GivesFinite (Json.value depth (bound + 1) s) := by
  rw [Json.value]
  split
  · exact givesFinite_error _
  · split
    · exact givesFinite_bind fun rest _ => givesFinite_ok finite_null rest
    · exact givesFinite_bind fun rest _ => givesFinite_ok (finite_bool true) rest
    · exact givesFinite_bind fun rest _ => givesFinite_ok (finite_bool false) rest
    · exact givesFinite_unsignedNumber
    · exact givesFinite_bind fun read _ => givesFinite_ok (finite_text read.1) read.2
    · split
      · exact givesFinite_error _
      · exact givesFinite_bind fun read done =>
          givesFinite_ok (finite_list_iff.mpr (h.items _ _ _ _ _ done)) read.2
    · split
      · exact givesFinite_error _
      · exact givesFinite_bind fun read done =>
          givesFinite_ok (finite_mapping_iff.mpr (h.entries _ _ _ _ _ done)) read.2
    · split
      · exact givesFinite_unsignedNumber
      · exact givesFinite_error _

/-- An item that is read is put before those that follow it. -/
theorem item_succ (h : ReadersGiveFinite bound)
    (read : (do
      let (item, more) ← Json.value depth bound s
      let (others, after) ← Json.items depth bound false more
      return (item :: others, after)) = .ok (found, rest)) :
    ∀ item ∈ found, item.Finite := by
  obtain ⟨⟨item, more⟩, one, read⟩ := bind_eq_ok_iff.mp read
  obtain ⟨⟨others, after⟩, further, read⟩ := bind_eq_ok_iff.mp read
  cases read
  exact List.forall_mem_cons.mpr ⟨h.value _ _ _ _ one, h.items _ _ _ _ _ further⟩

theorem items_succ (h : ReadersGiveFinite bound)
    (read : Json.items depth (bound + 1) first s = .ok (found, rest)) :
    ∀ item ∈ found, item.Finite := by
  rw [Json.items] at read
  split at read
  · cases read
  · cases read
    exact List.forall_mem_nil _
  · split at read
    · exact h.item_succ read
    · split at read
      · split at read
        · cases read
        · cases read
        · exact h.item_succ read
      · cases read

theorem entries_succ (h : ReadersGiveFinite bound)
    (read : Json.entries depth (bound + 1) first s = .ok (foundEntries, rest)) :
    ∀ entry ∈ foundEntries, entry.2.Finite := by
  rw [Json.entries] at read
  split at read
  · cases read
  · cases read
    exact List.forall_mem_nil _
  · split at read
    · split at read
      · exact h.entry _ _ _ _ read
      · cases read
    · split at read
      · split at read
        · cases read
        · cases read
        · exact h.entry _ _ _ _ read
        · cases read
      · cases read

theorem entry_succ (h : ReadersGiveFinite bound)
    (read : Json.entry depth (bound + 1) s = .ok (foundEntries, rest)) :
    ∀ entry ∈ foundEntries, entry.2.Finite := by
  rw [Json.entry] at read
  obtain ⟨⟨key, afterKey⟩, -, read⟩ := bind_eq_ok_iff.mp read
  obtain ⟨afterColon, -, read⟩ := bind_eq_ok_iff.mp read
  obtain ⟨⟨value, more⟩, one, read⟩ := bind_eq_ok_iff.mp read
  obtain ⟨⟨others, after⟩, further, read⟩ := bind_eq_ok_iff.mp read
  cases read
  exact List.forall_mem_cons.mpr ⟨h.value _ _ _ _ one, h.entries _ _ _ _ _ further⟩

end ReadersGiveFinite

theorem readersGiveFinite (bound : Nat) : ReadersGiveFinite bound := by
  induction bound with
  | zero => exact readersGiveFinite_zero
  | succ bound ih =>
    exact ⟨ih.value_succ, fun _ _ _ _ _ => ih.items_succ, fun _ _ _ _ _ => ih.entries_succ,
      fun _ _ _ _ => ih.entry_succ⟩

/-- The numbers of a document that is written in a JSON text are finite. -/
theorem finite_of_read {text : String} (read : Json.read text = .ok document) :
    document.Finite := by
  unfold Json.read at read
  split at read
  · next found whole =>
    cases read
    obtain ⟨⟨found', rest⟩, one, whole⟩ := bind_eq_ok_iff.mp whole
    simp only at whole
    split at whole
    · cases whole
      exact (readersGiveFinite _).value _ _ _ _ one
    · cases whole
  · cases read

end ProfilingSession.Document.Json
