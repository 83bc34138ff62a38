import ProfilingSession.Shell.Token

/-!
# Commands of the shell

Commands are read from tokens by recursive descent, line after line. A line that cannot be read
becomes a command of its own, `malformed`, so that the lines before it are still run.
-/

namespace ProfilingSession.Shell

/-- Where a redirection leads. -/
inductive Direction where
  | input
  | output
  | append
  /-- Where another descriptor leads. -/
  | same
  deriving DecidableEq, Repr

structure Redirection where
  descriptor : Nat
  direction : Direction
  target : Word

inductive Command where
  | nothing
  | simple (line : Nat) (assignments : List (String × Word)) (words : List Word)
      (redirections : List Redirection)
  | sequence (first next : Command)
  | background (command : Command)
  /-- The second one only if the first one succeeds. -/
  | both (first next : Command)
  /-- The second one only if the first one fails. -/
  | either (first next : Command)
  | negation (command : Command)
  | redirected (line : Nat) (command : Command) (redirections : List Redirection)
  | branch (condition yes no : Command)
  /-- A command again and again, as long as a condition succeeds or as long as it fails. -/
  | loop (whileTrue : Bool) (condition body : Command)
  /-- A command for each word. -/
  | each (line : Nat) (name : String) (words : List Word) (body : Command)
  /-- What is wrong with the script from a line on. -/
  | malformed (line : Nat) (message : String)

namespace Command

/-! ## Scripts within the words of a command -/

/-- The words of a command that are expanded before it is executed. -/
def words : Command → List Word
  | .simple _ assignments words redirections =>
    words ++ assignments.map Prod.snd ++ redirections.map Redirection.target
  | .redirected _ _ redirections => redirections.map Redirection.target
  | .each _ _ words _ => words
  | _ => []

def script? (command : Command) : Option (Nat × Bytes) :=
  command.words.findSome? Word.script?

/-- A command with other words in place of its own, in the same order. -/
def withWords (given : List Word) : Command → Command
  | .simple line assignments words redirections =>
    let rest := given.drop words.length
    .simple line
      (assignments.zipWith (fun entry word => (entry.1, word)) rest)
      (given.take words.length)
      (redirections.zipWith (fun redirection target => { redirection with target := target })
        (rest.drop assignments.length))
  | .redirected line command redirections =>
    .redirected line command
      (redirections.zipWith (fun redirection target => { redirection with target := target }) given)
  | .each line name _ body => .each line name given body
  | command => command

def fill (printed : Bytes) (command : Command) : Command :=
  command.withWords (Word.fillFirst printed command.words)

/-! ## Tokens that are left -/

structure Problem where
  line : Nat
  message : String

abbrev Rest := List Placed

abbrev Reading := Except Problem (Command × Rest)

/-- Words that end a list of commands. -/
def closers : List String :=
  ["then", "elif", "else", "fi", "do", "done", "\x7d"]

/-- Words that mean something where a command is looked for. -/
def reserved : List String :=
  closers ++ ["!", "for", "if", "in", "until", "while", "\x7b"]

/-- The word that a list of tokens starts with, if it is without quotes. -/
def bareWord? : Rest → Option String
  | ⟨_, .word word⟩ :: _ => word.bare?
  | _ => none

def startsWith (operator : String) : Rest → Bool
  | ⟨_, .operator text⟩ :: _ => text == operator
  | _ => false

/-- Whether a list of tokens is at an end that a script may have. -/
def atEnd : Rest → Bool
  | ⟨_, .ending none⟩ :: _ => true
  | [] => true
  | _ => false

/-- Whether a list of commands ends here. -/
def atClose (tokens : Rest) : Bool :=
  atEnd tokens || startsWith ")" tokens || (bareWord? tokens).any closers.contains

def skipLines : Rest → Rest
  | ⟨line, .operator text⟩ :: rest =>
    if text = "\n" then skipLines rest else ⟨line, .operator text⟩ :: rest
  | tokens => tokens

def lineOf : Rest → Nat
  | token :: _ => token.line
  | [] => 0

/-! ## Problems -/

def inDoubleQuotes (s : String) : String :=
  "\"" ++ s ++ "\""

/-- What the next token is called. -/
def nameOf : Rest → String
  | ⟨_, .word word⟩ :: _ =>
    match word.bare? with
    | some text => if reserved.contains text then inDoubleQuotes text else "word"
    | none => "word"
  | ⟨_, .operator text⟩ :: _ =>
    if text = "\n" then "newline"
    else if [">", "<", ">>", ">&"].contains text then "redirection"
    else inDoubleQuotes text
  | ⟨_, .descriptor _⟩ :: _ => "redirection"
  | _ => "end of file"

/-- The next token does not fit, unless the script ends where it must not. -/
def unexpected {α : Type} (tokens : Rest) (expected : Option String) : Except Problem α :=
  match tokens with
  | ⟨line, .ending (some fault)⟩ :: _ => .error ⟨line, fault⟩
  | _ =>
    let hint := expected.elim "" fun name => " (expecting " ++ inDoubleQuotes name ++ ")"
    .error ⟨lineOf tokens, nameOf tokens ++ " unexpected" ++ hint⟩

/-- The tokens after a word that has to come. -/
def expectWord (text : String) (tokens : Rest) : Except Problem Rest :=
  if bareWord? tokens = some text then .ok (tokens.drop 1) else unexpected tokens (some text)

/-! ## Simple commands -/

/-- The direction that an operator stands for, and the usual descriptor. -/
def direction? : String → Option (Nat × Direction)
  | "<" => some (0, .input)
  | ">" => some (1, .output)
  | ">>" => some (1, .append)
  | ">&" => some (1, .same)
  | _ => none

/-- The redirection that a list of tokens starts with, and what follows it. -/
def redirection? : Rest → Option (Redirection × Rest)
  | ⟨_, .descriptor number⟩ :: ⟨_, .operator text⟩ :: ⟨_, .word target⟩ :: rest =>
    (direction? text).map fun (_, direction) => (⟨number, direction, target⟩, rest)
  | ⟨_, .operator text⟩ :: ⟨_, .word target⟩ :: rest =>
    (direction? text).map fun (number, direction) => (⟨number, direction, target⟩, rest)
  | _ => none

def redirections : Nat → Rest → List Redirection × Rest
  | 0, tokens => ([], tokens)
  | fuel + 1, tokens =>
    match redirection? tokens with
    | some (redirection, rest) => (redirections fuel rest).map (redirection :: ·) id
    | none => ([], tokens)

def assignment? : Word → Option (String × Word)
  | .text s false :: rest =>
    let name := String.ofList (s.toList.takeWhile (· ≠ '='))
    match s.toList.drop name.length with
    | _ :: value =>
      if isName name then
        some (name, if value.isEmpty then rest else .text (String.ofList value) false :: rest)
      else none
    | [] => none
  | _ => none

/-- Reads a simple command, given what was read of it already. -/
def readSimple (line : Nat) (assignments : List (String × Word)) (words : List Word)
    (redirected : List Redirection) : Nat → Rest → Reading
  | 0, tokens => unexpected tokens none
  | fuel + 1, tokens =>
    match redirection? tokens with
    | some (redirection, rest) =>
      readSimple line assignments words (redirected ++ [redirection]) fuel rest
    | none =>
      match tokens with
      | ⟨_, .word word⟩ :: rest =>
        match (if words.isEmpty then assignment? word else none) with
        | some assignment =>
          readSimple line (assignments ++ [assignment]) words redirected fuel rest
        | none => readSimple line assignments (words ++ [word]) redirected fuel rest
      | ⟨_, .descriptor _⟩ :: rest => unexpected (rest.drop 1) none
      | ⟨_, .ending (some _)⟩ :: _ => unexpected tokens none
      | ⟨_, .operator text⟩ :: rest =>
        if (direction? text).isSome then unexpected rest none
        else if assignments.isEmpty && words.isEmpty && redirected.isEmpty then
          unexpected tokens none
        else .ok (.simple line assignments words redirected, tokens)
      | _ =>
        if assignments.isEmpty && words.isEmpty && redirected.isEmpty then unexpected tokens none
        else .ok (.simple line assignments words redirected, tokens)

def readWords : Rest → List Word × Rest
  | ⟨_, .word word⟩ :: rest => (readWords rest).map (word :: ·) id
  | tokens => ([], tokens)

/-! ## Commands made of others -/

def followedBy : Command → Command → Command
  | .nothing, next => next
  | first, .nothing => first
  | first, next => .sequence first next

/-- Reads the word that ends a command, and the redirections after it. -/
def ended (line : Nat) (word : String) (command : Command) (tokens : Rest) : Reading := do
  let rest ← expectWord word tokens
  let (found, rest) := redirections rest.length rest
  return (if found.isEmpty then command else .redirected line command found, rest)

mutual

/-- Reads commands up to a word that closes them, of which there has to be one. -/
def readBody : Nat → Rest → Reading
  | 0, tokens => unexpected tokens none
  | fuel + 1, tokens =>
    let tokens := skipLines tokens
    if atClose tokens && !atEnd tokens then unexpected tokens none
    else readList fuel false tokens

/-- Reads commands up to a word that closes them, or to the end of the line if that is enough. -/
def readList : Nat → Bool → Rest → Reading
  | 0, _, tokens => unexpected tokens none
  | fuel + 1, oneLine, tokens =>
    let tokens := if oneLine then tokens else skipLines tokens
    if startsWith "\n" tokens then .ok (.nothing, tokens.drop 1)
    else if atClose tokens then .ok (.nothing, tokens)
    else do
      let (command, rest) ← readChain fuel tokens
      if startsWith ";" rest || startsWith "&" rest then
        let command := if startsWith "&" rest then .background command else command
        let (next, rest) ← readList fuel oneLine (rest.drop 1)
        return (followedBy command next, rest)
      else if startsWith "\n" rest then
        if oneLine then return (command, rest.drop 1)
        else
          let (next, rest) ← readList fuel oneLine rest
          return (followedBy command next, rest)
      else if atClose rest then return (command, rest)
      else unexpected rest none

def readChain : Nat → Rest → Reading
  | 0, tokens => unexpected tokens none
  | fuel + 1, tokens => do
    let (first, rest) ← readNegated fuel tokens
    readChainFrom fuel first rest

/-- Reads on after a command that others may depend on. -/
def readChainFrom : Nat → Command → Rest → Reading
  | 0, _, tokens => unexpected tokens none
  | fuel + 1, first, tokens =>
    if startsWith "&&" tokens then do
      let (next, rest) ← readNegated fuel (skipLines (tokens.drop 1))
      readChainFrom fuel (.both first next) rest
    else if startsWith "||" tokens then do
      let (next, rest) ← readNegated fuel (skipLines (tokens.drop 1))
      readChainFrom fuel (.either first next) rest
    else .ok (first, tokens)

/-- Reads a command that may be negated. -/
def readNegated : Nat → Rest → Reading
  | 0, tokens => unexpected tokens none
  | fuel + 1, tokens =>
    if bareWord? tokens = some "!" then do
      let (command, rest) ← readNegated fuel (tokens.drop 1)
      return (.negation command, rest)
    else readCommand fuel tokens

def readCommand : Nat → Rest → Reading
  | 0, tokens => unexpected tokens none
  | fuel + 1, tokens =>
    let line := lineOf tokens
    match bareWord? tokens with
    | some "\x7b" => do
      let (body, rest) ← readBody fuel (tokens.drop 1)
      ended line "\x7d" body rest
    | some "if" => readBranch fuel line (tokens.drop 1)
    | some "while" => readLoop fuel line true (tokens.drop 1)
    | some "until" => readLoop fuel line false (tokens.drop 1)
    | some "for" => readEach fuel line (tokens.drop 1)
    | word =>
      if word.any closers.contains then unexpected tokens none
      else readSimple line [] [] [] (tokens.length + 1) tokens

def readBranch : Nat → Nat → Rest → Reading
  | 0, _, tokens => unexpected tokens none
  | fuel + 1, line, tokens => do
    let (condition, rest) ← readBody fuel tokens
    let (yes, rest) ← readBody fuel (← expectWord "then" rest)
    match bareWord? rest with
    | some "elif" =>
      let (no, rest) ← readBranch fuel line (rest.drop 1)
      return (.branch condition yes no, rest)
    | some "else" =>
      let (no, rest) ← readBody fuel (rest.drop 1)
      ended line "fi" (.branch condition yes no) rest
    | _ => ended line "fi" (.branch condition yes .nothing) rest

def readLoop : Nat → Nat → Bool → Rest → Reading
  | 0, _, _, tokens => unexpected tokens none
  | fuel + 1, line, whileTrue, tokens => do
    let (condition, rest) ← readBody fuel tokens
    let (body, rest) ← readBody fuel (← expectWord "do" rest)
    ended line "done" (.loop whileTrue condition body) rest

/-- Reads what follows the word that starts a loop over words; without words these are the
arguments. -/
def readEach : Nat → Nat → Rest → Reading
  | 0, _, tokens => unexpected tokens none
  | fuel + 1, line, tokens =>
    match (bareWord? tokens).filter isName with
    | none => .error ⟨lineOf tokens, "Bad for loop variable"⟩
    | some name => do
      let rest := skipLines (tokens.drop 1)
      let (words, rest) :=
        if bareWord? rest = some "in" then readWords (rest.drop 1)
        else ([[.parameter "@" true]], rest)
      let rest := skipLines (if startsWith ";" rest then rest.drop 1 else rest)
      let (body, rest) ← readBody fuel (← expectWord "do" rest)
      ended line "done" (.each line name words body) rest

end

/-! ## Scripts -/

/-- Reads a line and the lines that belong to it. -/
def readLine (tokens : Rest) : Reading := do
  let (command, rest) ← readList (10 * tokens.length + 10) true tokens
  if atEnd rest || rest.length < tokens.length && !atClose rest then return (command, rest)
  else unexpected rest none

def readLines : Nat → Rest → Command
  | 0, _ => .nothing
  | fuel + 1, tokens =>
    if atEnd tokens then .nothing
    else
      match readLine tokens with
      | .ok (command, rest) => followedBy command (readLines fuel rest)
      | .error problem => .malformed problem.line problem.message

/-- Reads a script that starts on a line. -/
def read (line : Nat) (script : Bytes) : Command :=
  let tokens := Token.scan line script
  readLines tokens.length tokens

end Command

end ProfilingSession.Shell
