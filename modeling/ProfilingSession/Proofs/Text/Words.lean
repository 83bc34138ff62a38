import ProfilingSession.Text.Words

/-!
# Words between blanks

`Separated` says how a text is made of words and blanks; a word is not empty and has no blank in it.
Each text is made in one way, and its words are those that are read (`wordsOf_eq_iff`).
-/

namespace ProfilingSession.Text

variable {c : Char} {cs word : List Char} {found : List (List Char)}

/-- A word has a character at least, and no blank. -/
structure IsWord (word : List Char) : Prop where
  nonempty : word ≠ []
  solid : ∀ c ∈ word, isBlank c = false

/-- A text with its words, which blanks keep apart. -/
inductive Separated : List Char → List (List Char) → Prop where
  | nil : Separated [] []
  | blank {c : Char} {cs : List Char} {found : List (List Char)} (blank : isBlank c = true)
    (rest : Separated cs found) : Separated (c :: cs) found
  | last {word : List Char} (isWord : IsWord word) : Separated word [word]
  | word {word : List Char} {c : Char} {cs : List Char} {found : List (List Char)}
    (isWord : IsWord word) (blank : isBlank c = true) (rest : Separated cs found) :
    Separated (word ++ c :: cs) (word :: found)

theorem isWord_singleton (solid : isBlank c = false) : IsWord [c] :=
  ⟨by simp, by simpa using solid⟩

theorem IsWord.cons (solid : isBlank c = false) (isWord : IsWord word) : IsWord (c :: word) :=
  ⟨by simp, List.forall_mem_cons.mpr ⟨solid, isWord.solid⟩⟩

theorem wordsOf_blank (blank : isBlank c = true) : wordsOf (c :: cs) = wordsOf cs := by
  cases cs <;> simp [wordsOf, blank]

/-- A character belongs to the word after it if there is no blank between. -/
theorem wordsOf_cons {d : Char} (first : isBlank c = false) (next : isBlank d = false)
    (read : wordsOf (d :: cs) = word :: found) : wordsOf (c :: d :: cs) = (c :: word) :: found := by
  rw [wordsOf.eq_def]
  simp [first, next, read]

/-- A word ends where the text ends or a blank comes. -/
theorem wordsOf_append (isWord : IsWord word) (ends : ∀ c ∈ cs.head?, isBlank c = true) :
    wordsOf (word ++ cs) = word :: wordsOf cs := by
  obtain ⟨nonempty, solid⟩ := isWord
  induction word with
  | nil => exact absurd rfl nonempty
  | cons d rest ih =>
    obtain ⟨first, others⟩ := List.forall_mem_cons.mp solid
    cases rest with
    | nil =>
      cases cs with
      | nil => simp [wordsOf, first]
      | cons c cs =>
        have blank : isBlank c = true := ends c rfl
        simp [wordsOf, first, blank]
    | cons e rest => exact wordsOf_cons first (others e List.mem_cons_self) (ih (by simp) others)

theorem Separated.wordsOf_eq (separated : Separated cs found) : wordsOf cs = found := by
  induction separated with
  | nil => rfl
  | blank blank _ ih => rw [wordsOf_blank blank, ih]
  | @last word isWord =>
    have alone : wordsOf (word ++ []) = word :: wordsOf [] := wordsOf_append isWord nofun
    rwa [List.append_nil] at alone
  | word isWord blank _ ih => rw [wordsOf_append isWord (by simpa using blank), wordsOf_blank blank, ih]

/-- A character before a text belongs to its first word, or is a word by itself. -/
theorem Separated.exists_cons (solid : isBlank c = false) (separated : Separated cs found) :
    ∃ found, Separated (c :: cs) found := by
  cases separated with
  | nil => exact ⟨_, .last (isWord_singleton solid)⟩
  | blank blank rest => exact ⟨_, .word (isWord_singleton solid) blank rest⟩
  | last isWord => exact ⟨_, .last (isWord.cons solid)⟩
  | word isWord blank rest => exact ⟨_, .word (isWord.cons solid) blank rest⟩

theorem exists_separated (cs : List Char) : ∃ found, Separated cs found := by
  induction cs with
  | nil => exact ⟨[], .nil⟩
  | cons c cs ih =>
    obtain ⟨found, separated⟩ := ih
    cases solid : isBlank c with
    | false => exact separated.exists_cons solid
    | true => exact ⟨found, .blank solid separated⟩

/-- The words that are read are those that blanks keep apart. -/
theorem wordsOf_eq_iff : wordsOf cs = found ↔ Separated cs found := by
  constructor
  · rintro rfl
    obtain ⟨found, separated⟩ := exists_separated cs
    rwa [separated.wordsOf_eq]
  · exact Separated.wordsOf_eq

theorem separated_words (s : String) : Separated s.toList ((words s).map String.toList) := by
  rw [← wordsOf_eq_iff, words, List.map_map]
  simp

end ProfilingSession.Text
