import RowIdentity.Json.Basic
import RowIdentity.Text.Decimal

/-!
# Writing JSON text

* `Json.render` — the text of a value on one line without blanks
-/

namespace RowIdentity.Json

def numberChars : JsonNumber → List Char
  | .int n => Decimal.ofInt n
  | .real x => x.text

/-- A hexadecimal escape for a control character. -/
def controlEscape (c : Char) : List Char :=
  let ds := Nat.toDigits 16 c.toNat
  '\\' :: 'u' :: List.replicate (4 - ds.length) '0' ++ ds

/-- One character inside a string. -/
def escapeChar (c : Char) : List Char :=
  if c = '"' then ['\\', '"']
  else if c = '\\' then ['\\', '\\']
  else if c = '\n' then ['\\', 'n']
  else if c = '\r' then ['\\', 'r']
  else if c = '\t' then ['\\', 't']
  else if c = '\x08' then ['\\', 'b']
  else if c = '\x0c' then ['\\', 'f']
  else if c.toNat < 32 then controlEscape c
  else [c]

/-- A string between quotes. -/
def stringChars (s : String) : List Char := '"' :: s.toList.flatMap escapeChar ++ ['"']

mutual

/-- The text of a value in front of what follows. -/
def renderOnto (rest : List Char) : Json → List Char
  | .null => 'n' :: 'u' :: 'l' :: 'l' :: rest
  | .bool true => 't' :: 'r' :: 'u' :: 'e' :: rest
  | .bool false => 'f' :: 'a' :: 'l' :: 's' :: 'e' :: rest
  | .num n => numberChars n ++ rest
  | .str s => stringChars s ++ rest
  | .arr items => '[' :: renderItems (']' :: rest) items
  | .obj fields => '\x7b' :: renderFields ('\x7d' :: rest) fields

/-- Items with commas between them. -/
def renderItems (rest : List Char) : List Json → List Char
  | [] => rest
  | [v] => renderOnto rest v
  | v :: w :: more => renderOnto (',' :: renderItems rest (w :: more)) v

/-- Fields with commas between them. -/
def renderFields (rest : List Char) : List (String × Json) → List Char
  | [] => rest
  | [(k, v)] => stringChars k ++ ':' :: renderOnto rest v
  | (k, v) :: w :: more =>
    stringChars k ++ ':' :: renderOnto (',' :: renderFields rest (w :: more)) v

end

/-- The text of a value on one line without blanks. -/
def render (j : Json) : String := String.ofList (renderOnto [] j)

end RowIdentity.Json
