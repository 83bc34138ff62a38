import Mathlib.Algebra.BigOperators.Ring.List
import Mathlib.Algebra.Order.BigOperators.Group.List
import ProfilingSession.Proofs.Catalog.Contract
import ProfilingSession.Proofs.Declaration.Foreign
import ProfilingSession.Proofs.Declaration.Signature

/-!
# Helpers and their records

The name of a helper and the size of the record speak of the same record: the numbers in the name
are bits, the size is bytes, and no remainder is lost between them, since the widths of a catalog
are whole bytes. Sizes are added up in words of 64 bits, which cannot overflow below 2 ^ 32
parameters of the greatest width. A selection that keeps less has smaller records.
-/

namespace ProfilingSession.Declaration

open List (Forall₂)

def widths (declaration : Declaration) : List Nat :=
  declaration.payload.map Parameter.width

/-- A record whose size is what the name of its helper says: cut at its underscores, the name spells
the widths in decimal, and these are added up in words without overflow and as whole bytes. -/
structure Measured (declaration : Declaration) : Prop where
  helper : ∃ pieces, declaration.helperName.toList.splitOn '_' = "produce".toList :: pieces ∧
    Forall₂ Text.IsDecimal pieces (8 :: declaration.widths)
  fits : 8 + declaration.widths.sum < 2 ^ 64
  sum : declaration.payloadBits.toNat = declaration.widths.sum
  bytes : declaration.recordSize = 1 + (declaration.widths.map (· / 8)).sum
  bits : 8 * declaration.recordSize = (8 :: declaration.widths).sum

/-- A choice of a selection that is read from a document, with what is declared for it. -/
def DeclaredFor (catalog : Catalog) (written : Document) (choice : Choice)
    (declaration : Declaration) : Prop :=
  ∃ selection declarations, Selection.ofDocument catalog written = .ok selection ∧
    declare catalog (some selection) = .ok declarations ∧
    (choice, declaration) ∈ selection.choices.zip declarations

variable {catalog : Catalog} {event : Event} {choice other : Choice} {keeps : String → Bool}
variable {declaration : Declaration} {parameters rest : List Parameter} {numbers : List Nat}

/-! Sums of widths -/

/-- As long as the sum fits into a word, it is what is added up in words. -/
theorem toNat_foldl_width (parameters : List Parameter) (start : UInt64)
    (fits : start.toNat + (parameters.map Parameter.width).sum < 2 ^ 64) :
    (parameters.foldl (fun bits parameter => bits + UInt64.ofNat parameter.width) start).toNat =
      start.toNat + (parameters.map Parameter.width).sum := by
  induction parameters generalizing start with
  | nil => simp
  | cons parameter rest ih =>
    rw [List.map_cons, List.sum_cons] at fits ⊢
    have step : (start + UInt64.ofNat parameter.width).toNat = start.toNat + parameter.width := by
      rw [UInt64.toNat_add, UInt64.toNat_ofNat']
      omega
    rw [List.foldl_cons, ih _ (by omega), step]
    omega

theorem sum_eq_of_dvd (whole : ∀ n ∈ numbers, 8 ∣ n) :
    numbers.sum = 8 * (numbers.map (· / 8)).sum := by
  rw [← List.sum_map_mul_left]
  have same : numbers.map (fun n => 8 * (n / 8)) = numbers.map id :=
    List.map_congr_left fun n mem => Nat.mul_div_cancel' (whole n mem)
  rw [same, List.map_id]

theorem sum_lt_of_short (bounded : ∀ n ∈ numbers, n ≤ 2 ^ 32 - 8)
    (short : numbers.length < 2 ^ 32) : 8 + numbers.sum < 2 ^ 64 := by
  have total : numbers.sum ≤ numbers.length * (2 ^ 32 - 8) :=
    List.sum_le_card_nsmul numbers (2 ^ 32 - 8) bounded
  omega

/-- Nothing can be left out of a payload without a difference to the sum of its widths. -/
theorem eq_of_sum_eq (kept : parameters.Sublist rest)
    (positive : ∀ parameter ∈ rest, 0 < parameter.width)
    (same : (parameters.map Parameter.width).sum = (rest.map Parameter.width).sum) :
    parameters = rest := by
  induction kept with
  | slnil => rfl
  | cons parameter kept _ =>
    have less := (kept.map Parameter.width).sum_le_sum fun _ _ => Nat.zero_le _
    have more := positive parameter List.mem_cons_self
    rw [List.map_cons, List.sum_cons] at same
    omega
  | cons_cons parameter _ ih =>
    rw [List.map_cons, List.map_cons, List.sum_cons, List.sum_cons] at same
    rw [ih (List.forall_mem_cons.mp positive).2 (Nat.add_left_cancel same)]

/-! Records -/

theorem isByteWidth_of_mem_widths (keeps : String → Bool) (wellFormed : event.WellFormed) :
    ∀ width ∈ (ofEvent keeps event).widths, 8 ≤ width ∧ width ≤ 2 ^ 32 - 8 ∧ 8 ∣ width := by
  intro width mem
  obtain ⟨parameter, kept, rfl⟩ := List.mem_map.mp mem
  have whole := wellFormed.isWidth parameter (List.mem_of_mem_filter kept)
  obtain ⟨least, greatest, byte⟩ := Catalog.isWidth_iff.mp whole
  omega

theorem exists_pieces_helperName (declaration : Declaration) :
    ∃ pieces, declaration.helperName.toList.splitOn '_' = "produce".toList :: pieces ∧
      Forall₂ Text.IsDecimal pieces (8 :: declaration.widths) := by
  refine ⟨_, splitOn_helperName declaration, .cons (Text.isDecimal_toString 8) ?_⟩
  rw [widths, List.forall₂_map_left_iff, List.forall₂_map_right_iff, List.forall₂_same]
  exact fun parameter _ => Text.isDecimal_toString parameter.width

theorem toNat_payloadBits (fits : declaration.widths.sum < 2 ^ 64) :
    declaration.payloadBits.toNat = declaration.widths.sum := by
  have total := toNat_foldl_width declaration.payload 0
  rw [UInt64.toNat_zero, Nat.zero_add] at total
  exact total fits

theorem recordSize_eq (fits : 8 + declaration.widths.sum < 2 ^ 64) :
    declaration.recordSize = (8 + declaration.widths.sum) / 8 := by
  have tag : (UInt64.ofNat tagWidth).toNat = 8 := rfl
  rw [recordSize, UInt64.toNat_div, UInt64.toNat_add, tag, toNat_payloadBits (by omega),
    Nat.mod_eq_of_lt fits]
  rfl

theorem measured_ofEvent (wellFormed : event.WellFormed)
    (short : (ofEvent keeps event).payload.length < 2 ^ 32) : Measured (ofEvent keeps event) := by
  have each := isByteWidth_of_mem_widths keeps wellFormed
  have fits := sum_lt_of_short (fun width mem => (each width mem).2.1)
    (by rwa [widths, List.length_map])
  have whole := sum_eq_of_dvd fun width mem => (each width mem).2.2
  have size := recordSize_eq fits
  exact {
    helper := exists_pieces_helperName _
    fits := fits
    sum := toNat_payloadBits (by omega)
    bytes := by omega
    bits := by rw [List.sum_cons]; omega }

/-! Records of different selections -/

theorem payload_sublist (event : Event) (fewer : choice.parameters ⊆ other.parameters) :
    (ofEvent choice.keeps event).payload.Sublist (ofEvent other.keeps event).payload := by
  refine List.monotone_filter_right _ fun parameter kept => ?_
  rw [Choice.keeps, List.contains_iff_mem] at kept ⊢
  exact fewer kept

theorem mem_parameters_iff (fits : choice.Fits event) (name : String) :
    name ∈ choice.parameters ↔
      name ∈ (ofEvent choice.keeps event).payload.map Parameter.name := by
  rw [name_mem_payload_iff]
  exact ⟨fun kept => ⟨kept, fits.isParameter name kept⟩, And.left⟩

theorem exists_mem_of_declaredFor {written : Document}
    (declared : DeclaredFor catalog written choice declaration) :
    ∃ selection declarations, declare catalog (some selection) = .ok declarations ∧
      declaration ∈ declarations := by
  obtain ⟨selection, declarations, -, made, paired⟩ := declared
  exact ⟨selection, declarations, made, (List.of_mem_zip paired).2⟩

theorem exists_event_of_declaredFor {written : Document}
    (declared : DeclaredFor catalog written choice declaration) :
    ∃ event, catalog.event? choice.event = some event ∧ choice.Fits event ∧
      ofEvent choice.keeps event = declaration := by
  obtain ⟨selection, declarations, read, made, paired⟩ := declared
  obtain ⟨event, found, same⟩ := (List.forall₂_iff_zip.mp (forall₂_of_declare made)).2 paired
  obtain ⟨event', found', fits⟩ :=
    Selection.exists_event_of_ofDocument read (List.of_mem_zip paired).1
  obtain rfl := Option.some.inj (found.symm.trans found')
  exact ⟨event, found, fits, same⟩

/-- The record of a choice that keeps less is smaller, or keeps the same. -/
theorem recordSize_le_and_eq_iff (wellFormed : event.WellFormed) (fits : choice.Fits event)
    (otherFits : other.Fits event) (fewer : choice.parameters ⊆ other.parameters)
    (short : (ofEvent other.keeps event).payload.length < 2 ^ 32) :
    (ofEvent choice.keeps event).recordSize ≤ (ofEvent other.keeps event).recordSize ∧
      ((ofEvent choice.keeps event).recordSize = (ofEvent other.keeps event).recordSize ↔
        ∀ name, name ∈ choice.parameters ↔ name ∈ other.parameters) := by
  have kept := payload_sublist event fewer
  have small := (measured_ofEvent wellFormed (kept.length_le.trans_lt short)).bits
  have large := (measured_ofEvent wellFormed short).bits
  have less : (ofEvent choice.keeps event).widths.sum ≤ (ofEvent other.keeps event).widths.sum :=
    (kept.map Parameter.width).sum_le_sum fun _ _ => Nat.zero_le _
  rw [List.sum_cons] at small large
  refine ⟨by omega, fun same name => ?_, fun same => ?_⟩
  · have positive : ∀ parameter ∈ (ofEvent other.keeps event).payload, 0 < parameter.width := by
      intro parameter mem
      have byte := isByteWidth_of_mem_widths _ wellFormed _ (List.mem_map_of_mem mem)
      omega
    have sums : (ofEvent choice.keeps event).widths.sum =
        (ofEvent other.keeps event).widths.sum := by
      omega
    have payload := eq_of_sum_eq kept positive sums
    rw [mem_parameters_iff fits, mem_parameters_iff otherFits, payload]
  · have keeps : choice.keeps = other.keeps := by
      funext name
      simp [Choice.keeps, same name]
    rw [keeps]

/-- What a catalog declares below 2 ^ 32 parameters, as a whole or for a selection: the name of the
helper spells the widths of the record, in wire order, and the size is their sum, in bytes. Of two
selections that are read for the catalog, the one that keeps some of what the other keeps of an
event has a record of that event that is no larger, and of the same size only if it keeps all. -/
theorem measured_of_declare {document : Document} (differ : document.Unambiguous)
    (accepted : Catalog.ofDocument document = .ok catalog) :
    (∀ selection declarations, declare catalog selection = .ok declarations →
        ∀ declaration ∈ declarations, declaration.payload.length < 2 ^ 32 →
          Measured declaration ∧ ∃ event ∈ catalog.events,
            declaration.event = event.name ∧ declaration.payload.Sublist event.parameters) ∧
      ∀ written written' choice choice' declaration declaration',
        DeclaredFor catalog written choice declaration →
          DeclaredFor catalog written' choice' declaration' → choice.event = choice'.event →
            choice.parameters ⊆ choice'.parameters → declaration'.payload.length < 2 ^ 32 →
              declaration.recordSize ≤ declaration'.recordSize ∧
                (declaration.recordSize = declaration'.recordSize ↔
                  ∀ name, name ∈ choice.parameters ↔ name ∈ choice'.parameters) := by
  have wellFormed := Catalog.wellFormed_of_ofDocument
    (Document.repeatedKey_eq_none_iff.mpr differ) accepted
  constructor
  · intro selection declarations declared declaration mem short
    obtain ⟨event, inCatalog, keeps, rfl⟩ := exists_of_mem_declare declared mem
    exact ⟨measured_ofEvent (wellFormed.events event inCatalog) short, event, inCatalog, rfl,
      List.filter_sublist⟩
  · intro written written' choice choice' declaration declaration' declared declared' named fewer
      short
    obtain ⟨event, found, fits, rfl⟩ := exists_event_of_declaredFor declared
    obtain ⟨event', found', fits', rfl⟩ := exists_event_of_declaredFor declared'
    obtain rfl : event = event' := Option.some.inj (found.symm.trans (named ▸ found'))
    exact recordSize_le_and_eq_iff
      (wellFormed.events event (Catalog.event?_eq_some found).1) fits fits' fewer short

/-- The record of two of three parameters is measured, and smaller than that of all of them. -/
theorem recordSize_of_reorderedDocument :
    memoryDocument.Unambiguous ∧ Catalog.ofDocument memoryDocument = .ok memoryCatalog ∧
      ∃ choice other declaration whole,
        DeclaredFor memoryCatalog reorderedDocument choice declaration ∧
        DeclaredFor memoryCatalog memoryDocument other whole ∧ choice.event = other.event ∧
        choice.parameters ⊆ other.parameters ∧ whole.payload.length < 2 ^ 32 ∧
        declaration.helperName = "produce_8_32_32" ∧ Measured declaration ∧ Measured whole ∧
        declaration.recordSize = 9 ∧ whole.recordSize = 17 ∧
        declaration.recordSize ≤ whole.recordSize := by
  have read : Selection.ofDocument memoryCatalog reorderedDocument =
      .ok ⟨[⟨"loop_exit", []⟩, ⟨"load", ["size", "instr"]⟩]⟩ := by
    decide +kernel
  have readWhole : Selection.ofDocument memoryCatalog memoryDocument =
      .ok ⟨[⟨"load", ["instr", "addr", "size"]⟩, ⟨"loop_exit", []⟩]⟩ := by
    decide +kernel
  have declared : DeclaredFor memoryCatalog reorderedDocument ⟨"load", ["size", "instr"]⟩
      ⟨"load", [⟨"instr", 32⟩, ⟨"addr", 64⟩, ⟨"size", 32⟩], [⟨"instr", 32⟩, ⟨"size", 32⟩]⟩ :=
    ⟨_, _, read, rfl, by decide +kernel⟩
  have declaredWhole : DeclaredFor memoryCatalog memoryDocument
      ⟨"load", ["instr", "addr", "size"]⟩
      ⟨"load", [⟨"instr", 32⟩, ⟨"addr", 64⟩, ⟨"size", 32⟩],
        [⟨"instr", 32⟩, ⟨"addr", 64⟩, ⟨"size", 32⟩]⟩ :=
    ⟨_, _, readWhole, rfl, by decide +kernel⟩
  obtain ⟨measured, ordered⟩ :=
    measured_of_declare unambiguous_memoryDocument ofDocument_memoryDocument
  have sizes := ordered _ _ _ _ _ _ declared declaredWhole rfl (by decide) (by decide)
  obtain ⟨_, _, made, mem⟩ := exists_mem_of_declaredFor declared
  obtain ⟨_, _, madeWhole, memWhole⟩ := exists_mem_of_declaredFor declaredWhole
  exact ⟨unambiguous_memoryDocument, ofDocument_memoryDocument, _, _, _, _, declared,
    declaredWhole, rfl, by decide, by decide, by decide +kernel,
    (measured _ _ made _ mem (by decide)).1, (measured _ _ madeWhole _ memWhole (by decide)).1,
    by decide, by decide, sizes.1⟩

end ProfilingSession.Declaration
