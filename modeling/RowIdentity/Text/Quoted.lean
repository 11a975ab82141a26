import RowIdentity.Text.Invisible

/-!
# Quoted names

A name shown between double quotes, in which every character can be told apart: quotes,
backslashes and the common controls are written with a backslash, other characters that do not
show by their code point.
-/

namespace RowIdentity.Quoted

/-- The lowercase hexadecimal digits of a code point. -/
def codePoint (c : Char) : List Char := Nat.toDigits 16 c.toNat

/-- One character of a quoted name. -/
def escape (c : Char) : List Char :=
  if c = '"' then ['\\', '"']
  else if c = '\\' then ['\\', '\\']
  else if c = '\n' then ['\\', 'n']
  else if c = '\r' then ['\\', 'r']
  else if c = '\t' then ['\\', 't']
  else if c.toNat = 0 then ['\\', '0']
  else if Invisible.isInvisible c then ['\\', 'u', '\x7b'] ++ codePoint c ++ ['\x7d']
  else [c]

/-- A name between double quotes. -/
def quote (s : String) : String := String.ofList ('"' :: s.toList.flatMap escape ++ ['"'])

end RowIdentity.Quoted
