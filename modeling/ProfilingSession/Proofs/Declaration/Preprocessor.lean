import Mathlib
import ProfilingSession.Proofs.Text.Lines
import ProfilingSession.Text.Words

/-!
# The preprocessor

What the preprocessor makes of the definition of a macro with parameters: it reads the line as
tokens, and replaces the parameters in the body by the arguments of a call, all at once. A token is
a word, which is as long as can be, or a single character; identifiers are words, and blanks only
matter between the name of the macro and its parameters.

`scan_words` reads a list of words with commas between them, which is the form of parameters and
of arguments.
-/

namespace ProfilingSession.Preprocessor

inductive Token where
  /-- An identifier or a number. -/
  | word (text : String)
  | mark (c : Char)
  | blank
  deriving DecidableEq, Repr

/-- The characters of words: ASCII letters and digits, and the underscore. -/
def isWordChar (c : Char) : Bool :=
  c.isAlphanum || c == '_'

/-- The word that ends, if there is one. -/
def endWord (pending : List Char) : List Token :=
  if pending = [] then [] else [.word (String.ofList pending)]

def single (c : Char) : Token :=
  if c = ' ' then .blank else .mark c

/-- Reads tokens after the beginning of a word. -/
def scan (pending : List Char) : List Char → List Token
  | [] => endWord pending
  | c :: rest =>
    if isWordChar c then scan (pending ++ [c]) rest
    else endWord pending ++ single c :: scan [] rest

def tokens (text : String) : List Token :=
  scan [] text.toList

structure Definition where
  name : String
  parameters : List String
  body : List Token
  deriving DecidableEq, Repr

namespace Definition

/-- Reads the parameters after the first one, and gives back what follows the bracket. -/
def readMore : List Token → Option (List String × List Token)
  | .mark ')' :: body => some ([], body)
  | .mark ',' :: .word parameter :: rest =>
    (readMore rest).map fun (parameters, body) => (parameter :: parameters, body)
  | _ => none

/-- Reads the parameters after the opening bracket. -/
def readParameters : List Token → Option (List String × List Token)
  | .mark ')' :: body => some ([], body)
  | .word parameter :: rest =>
    (readMore rest).map fun (parameters, body) => (parameter :: parameters, body)
  | _ => none

/-- Reads the definition of a macro with parameters, whose opening bracket follows its name at
once. -/
def ofLine (line : String) : Option Definition :=
  match tokens line with
  | .mark '#' :: .word directive :: .blank :: .word name :: .mark '(' :: rest =>
    if directive = "define" then
      (readParameters (rest.filter (· ≠ .blank))).map fun (parameters, body) =>
        ⟨name, parameters, body⟩
    else none
  | _ => none

/-- What a token of the body becomes: the argument of a parameter, or itself. -/
def substitute (definition : Definition) (arguments : List (List Token)) : Token → List Token
  | .word text => ((definition.parameters.zip arguments).lookup text).getD [.word text]
  | token => [token]

/-- What a call becomes: the body with the arguments for the parameters, all at once. -/
def expand (definition : Definition) (arguments : List (List Token)) : List Token :=
  definition.body.flatMap (definition.substitute arguments)

end Definition

def IsWord (text : String) : Prop :=
  text ≠ "" ∧ ∀ c ∈ text.toList, isWordChar c = true

theorem isWord_of_all {text : String} (ne : text ≠ "")
    (h : text.toList.all isWordChar = true) : IsWord text :=
  ⟨ne, List.all_eq_true.mp h⟩

theorem isWord_of_isIdentifier {text : String} (h : Text.isIdentifier text = true) :
    IsWord text := by
  unfold Text.isIdentifier at h
  split at h
  · cases h
  · next c rest shape =>
    simp only [Bool.and_eq_true, Bool.or_eq_true, List.all_eq_true] at h
    refine ⟨fun empty => by simp [empty] at shape, fun d mem => ?_⟩
    rw [shape, List.mem_cons] at mem
    rcases mem with rfl | mem
    · rcases h.1 with letter | underscore
      · simp [isWordChar, Char.isAlphanum, letter]
      · simp [isWordChar, underscore]
    · simpa [isWordChar] using h.2 d mem

/-- Capitals do not make two words of one. -/
theorem isWord_upper {text : String} (h : IsWord text) : IsWord (Text.upper text) := by
  refine ⟨by simpa [Text.upper] using h.1, fun c mem => ?_⟩
  obtain ⟨d, mem', rfl⟩ : ∃ d ∈ text.toList, d.toUpper = c := by simpa [Text.upper] using mem
  by_cases letter : d.isAlpha = true
  · simp [isWordChar, Char.isAlphanum, letter]
  · have other : ¬ d.isLower = true := fun small => letter (by simp [Char.isAlpha, small])
    rw [Char.toUpper_eq_of_not_isLower other]
    exact h.2 d mem'

theorem IsWord.append {text more : String} (h : IsWord text)
    (h' : ∀ c ∈ more.toList, isWordChar c = true) : IsWord (text ++ more) := by
  refine ⟨by simp [h.1], fun c mem => ?_⟩
  rw [String.toList_append, List.mem_append] at mem
  exact mem.elim (h.2 c) (h' c)

theorem isWordChar_of_mem_toString {n : Nat} {c : Char} (h : c ∈ (toString n).toList) :
    isWordChar c = true := by
  simp [isWordChar, Char.isAlphanum, Text.isDigit_of_mem_toString h]

/-- The characters of a word are read into one token. -/
theorem scan_of_forall {pending s : List Char} (h : ∀ c ∈ s, isWordChar c = true) :
    scan pending s = endWord (pending ++ s) := by
  induction s generalizing pending with
  | nil => simp [scan]
  | cons c rest ih =>
    obtain ⟨first, others⟩ := List.forall_mem_cons.mp h
    rw [scan, if_pos first, ih others, List.append_assoc, List.singleton_append]

/-- A text is read in two parts at a character that is in no word. -/
theorem scan_append_cons {pending s t : List Char} {c : Char} (h : isWordChar c = false) :
    scan pending (s ++ c :: t) = scan pending s ++ single c :: scan [] t := by
  induction s generalizing pending with
  | nil => simp [scan, h]
  | cons d rest ih =>
    rw [List.cons_append, scan, scan]
    split
    · exact ih
    · rw [ih]
      simp

theorem scan_word {text : String} (h : IsWord text) : scan [] text.toList = [.word text] := by
  rw [scan_of_forall h.2, List.nil_append, endWord, if_neg (by simpa using h.1),
    String.ofList_toList]

/-- A word ends where a character is in no word. -/
theorem scan_word_append {text : String} (h : IsWord text) {c : Char} (t : List Char)
    (c_not : isWordChar c = false) :
    scan [] (text.toList ++ c :: t) = .word text :: single c :: scan [] t := by
  rw [scan_append_cons c_not, scan_word h, List.singleton_append]

theorem scan_cons {c : Char} (t : List Char) (h : isWordChar c = false) :
    scan [] (c :: t) = single c :: scan [] t := by
  rw [scan, if_neg (by simp [h])]
  rfl

/-- Words with commas between them, up to a closing bracket. -/
theorem scan_words {text : String} (h : IsWord text) {names : List String}
    (words : ∀ name ∈ names, IsWord name) (t : List Char) :
    scan [] (text.toList ++ (names.flatMap (fun name => ',' :: ' ' :: name.toList) ++ ')' :: t)) =
      .word text :: (names.flatMap (fun name => [.mark ',', .blank, .word name]) ++
        .mark ')' :: scan [] t) := by
  induction names generalizing text with
  | nil => exact scan_word_append h t (by decide)
  | cons name rest ih =>
    obtain ⟨first, others⟩ := List.forall_mem_cons.mp words
    simp only [List.flatMap_cons, List.cons_append, List.append_assoc, List.nil_append]
    rw [scan_word_append h _ (by decide), scan_cons _ (by decide), ih first others]
    rfl

namespace Definition

theorem readMore_append (names : List String) (body : List Token) :
    readMore (names.flatMap (fun name => [.mark ',', .word name]) ++ .mark ')' :: body) =
      some (names, body) := by
  induction names with
  | nil => rfl
  | cons name rest ih => simp [readMore, ih]

@[simp]
theorem substitute_mark (definition : Definition) (arguments : List (List Token)) (c : Char) :
    definition.substitute arguments (.mark c) = [.mark c] := rfl

/-- A word that is no parameter is not replaced. -/
theorem substitute_of_not_mem {definition : Definition} {text : String}
    (h : text ∉ definition.parameters) (arguments : List (List Token)) :
    definition.substitute arguments (.word text) = [.word text] := by
  have none' : (definition.parameters.zip arguments).lookup text = none := by
    rw [List.lookup_eq_none_iff]
    rintro ⟨name, argument⟩ mem
    have ne : text ≠ name := fun e => h (e ▸ (List.of_mem_zip mem).1)
    simpa using ne
  simp [substitute, none']

/-- If every argument is one token, every parameter becomes that token. -/
theorem substitute_of_mem {definition : Definition} {text : String}
    (h : text ∈ definition.parameters) (token : Token) :
    definition.substitute (definition.parameters.map fun _ => [token]) (.word text) =
      [token] := by
  have found : ∀ names : List String, text ∈ names →
      (names.zip (names.map fun _ => [token])).lookup text = some [token] := by
    intro names mem
    induction names with
    | nil => cases mem
    | cons name rest ih =>
      by_cases same : text = name
      · simp [same]
      · have mem' := (List.mem_cons.mp mem).resolve_left same
        have ne : (text == name) = false := by simpa using same
        simpa [List.lookup_cons, ne] using ih mem'
  simp only [substitute, found _ h, Option.getD_some]

end Definition

end ProfilingSession.Preprocessor
