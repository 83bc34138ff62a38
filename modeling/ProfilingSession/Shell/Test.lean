import ProfilingSession.FileTree.Basic
import ProfilingSession.Shell.Bytes

/-!
# Tests

A test is a condition on files, texts and numbers, written as words: an operator before or between
operands, or a lone operand, perhaps after an exclamation mark. `Test.holds?` tells whether a test
holds, or what is wrong with it.
-/

namespace ProfilingSession.Shell.Test

open FileTree (Node)

def holdsOf? (files : FileTree) (operator operand : Bytes) : Option Bool :=
  let path := Bytes.toText operand
  match operator with
  | "-n" => some (operand != "")
  | "-z" => some (operand == "")
  | "-e" => some (files.hasNode path)
  | "-f" => some (files.hasFile path && !files.isNullDevice path)
  | "-d" => some (files.hasDirectory path)
  | "-r" => some (files.permits Node.mayReadBit path)
  | "-w" => some (files.permits Node.mayWriteBit path)
  | "-x" => some (files.permits Node.mayRunBit path)
  | "-s" =>
    match files.node path with
    | .ok (.file _ content) => some (content.size != 0)
    | .ok _ => some true
    | .error _ => some false
  | "-h" | "-L" => some (files.hasLink path)
  | _ => none

/-- What an operator between operands asks of numbers. -/
def comparison? : Bytes → Option (Int → Int → Bool)
  | "-eq" => some fun x y => x == y
  | "-ne" => some fun x y => x != y
  | "-lt" => some fun x y => x < y
  | "-le" => some fun x y => x ≤ y
  | "-gt" => some fun x y => y < x
  | "-ge" => some fun x y => y ≤ x
  | _ => none

def number (word : Bytes) : Except Bytes Int :=
  (Bytes.integer? word).elim (.error ("Illegal number: " ++ word)) .ok

def holds? (files : FileTree) : List Bytes → Except Bytes Bool
  | [] => .ok false
  | [word] => .ok (word != "")
  | [a, "=", b] => .ok (a == b)
  | [a, "!=", b] => .ok (a != b)
  | "!" :: rest => (holds? files rest).map not
  | [operator, operand] =>
    (holdsOf? files operator operand).elim (.error (operator ++ ": unexpected operator")) .ok
  | [a, operator, b] =>
    match comparison? operator with
    | some compare => do return compare (← number a) (← number b)
    | none => .error (operator ++ ": unexpected operator")
  | word :: _ => .error (word ++ ": unexpected operator")

end ProfilingSession.Shell.Test
