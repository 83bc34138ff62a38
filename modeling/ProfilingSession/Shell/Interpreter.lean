/-!
# The first line of a script

A file that starts with a number sign and an exclamation mark says in its first line by what
program it is run: a path and at most one option, which is all that follows the path, with the
blanks in it. Only the first bytes of the file are looked at. Without the end of the line among
them an option may be cut off but the path may not, since another program would be run then.

`Interpreter.ofBytes?` reads the line. There is none if the line has no path, except that a file
without an end of the line and with blanks only asks for the program with the empty path, which
there is not.
-/

namespace ProfilingSession.Shell

/-- What runs a script: a program, and an option for it. -/
structure Interpreter where
  path : List UInt8
  option : Option (List UInt8)
  deriving DecidableEq, Repr

namespace Interpreter

def headSize : Nat := 256

def isBlank (byte : UInt8) : Bool :=
  byte == 0x20 || byte == 0x09

/-- What ends a word: a blank or a zero byte. -/
def endsWord (byte : UInt8) : Bool :=
  isBlank byte || byte == 0

def trimmedEnd (bytes : List UInt8) : List UInt8 :=
  (bytes.reverse.dropWhile isBlank).reverse

/-- What a line says that starts with a path. Nothing is left of an option that is blanks only. -/
def ofLine (line : List UInt8) : Interpreter :=
  let path := line.takeWhile fun byte => !endsWord byte
  match line.drop path.length with
  | [] | 0 :: _ => ⟨path, none⟩
  | after =>
    match after.dropWhile isBlank with
    | [] => ⟨path, none⟩
    | option => ⟨path, some (option.takeWhile (· != 0))⟩

/-- What the first line of a file says. -/
def ofBytes? (bytes : List UInt8) : Option Interpreter :=
  match bytes.take headSize with
  | 0x23 :: 0x21 :: head =>
    let line := head.takeWhile fun byte => byte != 0x0a && byte != 0
    if head[line.length]? = some 0x0a then
      match (trimmedEnd line).dropWhile isBlank with
      | [] => none
      | words => some (ofLine words)
    else
      let padded := head ++ List.replicate (headSize - 2 - head.length) 0
      match padded.dropWhile isBlank with
      | [] => none
      | words =>
        if words.any endsWord then some (ofLine (trimmedEnd (words.dropLast))) else none
  | _ => none

end Interpreter

end ProfilingSession.Shell
