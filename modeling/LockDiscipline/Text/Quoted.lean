import LockDiscipline.Text.Visible

/-!
# Quoted text

`quote` puts a text between quotation marks.  A quotation mark and a backslash are preceded
by a backslash, four control characters have letters of their own, and every other hidden
character is written by its code point in hexadecimal.
-/

namespace LockDiscipline.Text

/-- A number in base 16. -/
def hexadecimal (n : Nat) : List Char := Nat.toDigits 16 n

/-- A character as it is written inside a quoted text. -/
def escaped (c : Char) : List Char :=
  if c = '"' then ['\\', '"']
  else if c = '\\' then ['\\', '\\']
  else if c = '\n' then ['\\', 'n']
  else if c = '\r' then ['\\', 'r']
  else if c = '\t' then ['\\', 't']
  else if c = '\x00' then ['\\', '0']
  else if isVisible c then [c]
  else ['\\', 'u', '\x7b'] ++ hexadecimal c.toNat ++ ['\x7d']

/-- A text between quotation marks. -/
def quote (s : String) : String :=
  String.ofList (['"'] ++ s.toList.flatMap escaped ++ ['"'])

end LockDiscipline.Text
