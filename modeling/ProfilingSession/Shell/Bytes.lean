/-!
# Texts of bytes

Scripts and what they print are bytes, which need not be UTF-8. They are kept as strings with one
character for each byte, all of them below 256. `ofText` and `toText` lead from ordinary texts, such
as paths, and back.
-/

namespace ProfilingSession.Shell

/-- A text with a character below 256 for each byte. -/
abbrev Bytes := String

namespace Bytes

def ofArray (bytes : ByteArray) : Bytes :=
  String.ofList (bytes.toList.map Char.ofUInt8)

def toArray (bytes : Bytes) : ByteArray :=
  ⟨(bytes.toList.map fun c => c.toNat.toUInt8).toArray⟩

/-- The bytes that an ordinary text is written with. -/
def ofText (text : String) : Bytes :=
  ofArray text.toUTF8

/-- The ordinary text that is written with some bytes; bytes that write none stay as they are. -/
def toText (bytes : Bytes) : String :=
  (String.fromUTF8? (toArray bytes)).getD bytes

/-! ## Numbers -/

def numberOf (digits : List Char) : Nat :=
  digits.foldl (fun n d => 10 * n + (d.toNat - '0'.toNat)) 0

/-- The number that a text of nothing but digits is. -/
def natural? (s : Bytes) : Option Nat :=
  if !s.isEmpty && s.toList.all Char.isDigit then some (numberOf s.toList) else none

/-- The number that a text of digits is, perhaps with a sign in front. -/
def integer? (s : Bytes) : Option Int :=
  match s.toList with
  | '-' :: digits => (natural? (String.ofList digits)).map fun n => -(n : Int)
  | '+' :: digits => (natural? (String.ofList digits)).map Int.ofNat
  | _ => (natural? s).map Int.ofNat

end Bytes

end ProfilingSession.Shell
