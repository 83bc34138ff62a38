import ProfilingSession.Text.Unprintable
import ProfilingSession.Text.Extending

/-!
# Quoted texts

`quoted s` shows a text in double quotes so that every character of it can be told: the quote,
the backslash and the four usual control characters have a two-character escape, a character
that cannot be drawn on its own is written by its code point, and all else stands for itself.
The single quote needs no escape, since the surrounding quotes are double.
-/

namespace ProfilingSession.Text

def hexDigits (n : Nat) : String :=
  String.ofList (Nat.toDigits 16 n)

/-- The escape of a character that cannot be drawn on its own. -/
def codePointEscape (c : Char) : String :=
  "\\u\x7b" ++ hexDigits c.toNat ++ "\x7d"

/-- How one character is written between double quotes. -/
def quotedChar (c : Char) : String :=
  if c = '\x00' then "\\0"
  else if c = '\t' then "\\t"
  else if c = '\r' then "\\r"
  else if c = '\n' then "\\n"
  else if c = '"' then "\\\""
  else if c = '\\' then "\\\\"
  else if ' ' ≤ c && c ≤ '~' then String.singleton c
  else if isUnprintable c || isExtending c then codePointEscape c
  else String.singleton c

def quoted (s : String) : String :=
  "\"" ++ String.join (s.toList.map quotedChar) ++ "\""

end ProfilingSession.Text
