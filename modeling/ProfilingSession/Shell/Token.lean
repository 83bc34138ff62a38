import ProfilingSession.Shell.Word

/-!
# Tokens of the shell

A script is cut into words, operators and the descriptors before redirections. The end of a line is
an operator, and there is a token for the end of the script, which may be one that it must not end
in. Each token knows the line it is on.
-/

namespace ProfilingSession.Shell

inductive Token where
  | word (value : Word)
  | operator (text : String)
  /-- The number of the descriptor that is redirected. -/
  | descriptor (number : Nat)
  /-- The end of the script; in the middle of something if there is a fault. -/
  | ending (fault : Option String)

structure Placed where
  line : Nat
  token : Token

namespace Token

def operators : List String :=
  ["&&", "||", ">>", ">&", "\n", ";", "&", "|", "(", ")", "<", ">"]

def operator? (cs : List Char) : Option String :=
  operators.find? fun text => text.toList.isPrefixOf cs

/-- The descriptor before a redirection, and what follows it. -/
def descriptor? (cs : List Char) : Option (Nat × List Char) :=
  match cs with
  | d :: c :: rest =>
    if d.isDigit && (c = '<' || c = '>') then some (d.toNat - '0'.toNat, c :: rest) else none
  | _ => none

/-- Cuts a text that starts on a line, within a number of steps. -/
def scanWithin : Nat → Nat → List Char → List Placed
  | 0, line, _ => [⟨line, .ending none⟩]
  | _ + 1, line, [] => [⟨line, .ending none⟩]
  | fuel + 1, line, c :: rest =>
    if c = ' ' || c = '\t' then scanWithin fuel line rest
    else if c = '#' then scanWithin fuel line (rest.dropWhile (· ≠ '\n'))
    else if c = '\\' && rest.head? = some '\n' then scanWithin fuel (line + 1) (rest.drop 1)
    else
      match operator? (c :: rest), descriptor? (c :: rest) with
      | some text, _ =>
        let next := if text = "\n" then line + 1 else line
        ⟨line, .operator text⟩ :: scanWithin fuel next ((c :: rest).drop text.length)
      | none, some (number, after) => ⟨line, .descriptor number⟩ :: scanWithin fuel line after
      | none, none =>
        match Word.read line (c :: rest) with
        | .ok (value, after) =>
          let taken := (c :: rest).take ((c :: rest).length - after.length)
          ⟨line, .word value⟩ :: scanWithin fuel (line + taken.count '\n') after
        | .error fault => [⟨line + rest.count '\n', .ending (some fault)⟩]

def scan (line : Nat) (script : Bytes) : List Placed :=
  scanWithin script.length.succ line script.toList

end Token

end ProfilingSession.Shell
