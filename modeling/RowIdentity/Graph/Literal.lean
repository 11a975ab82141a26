import RowIdentity.Text.Hexadecimal

/-!
# String literals of query documents

* `unquote?` — the text of a string with escapes
* `unquoteBlock` — the text of a block string: the common indentation and blank lines at both ends
  are dropped
-/

namespace RowIdentity.Graph.Literal

/-- The character of four places, hexadecimal digits with or without a plus sign in front. -/
def codePoint? (cs : List Char) : Option Char := do
  let n ← Hexadecimal.value? (if cs.head? = some '+' then cs.tail else cs)
  if cs.length = 4 && !(0xD800 ≤ n && n ≤ 0xDFFF) then some (Char.ofNat n) else none

/-- The text of a string as it is written between its quotes. -/
def unquoteFrom : List Char → Option (List Char)
  | [] => some []
  | '\\' :: 'u' :: a :: b :: c :: d :: rest => do
    let x ← codePoint? [a, b, c, d]
    let text ← unquoteFrom rest
    some (x :: text)
  | '\\' :: e :: rest => do
    let x ←
      if e = '"' || e = '\\' || e = '/' then some e
      else if e = 'b' then some '\x10'
      else if e = 'f' then some '\x0c'
      else if e = 'n' then some '\n'
      else if e = 'r' then some '\r'
      else if e = 't' then some '\t'
      else none
    let text ← unquoteFrom rest
    some (x :: text)
  | '\\' :: [] => none
  | c :: rest => (unquoteFrom rest).map (c :: ·)

def unquote? (cs : List Char) : Option String := (unquoteFrom cs).map String.ofList

/-- The lines of a text, without their ends; a last line that is empty is none. -/
def lines (current : List Char) : List Char → List (List Char)
  | [] => if current.isEmpty then [] else [current.reverse]
  | '\n' :: rest =>
    (match current with
      | '\r' :: more => more.reverse
      | _ => current.reverse) :: lines [] rest
  | c :: rest => lines (c :: current) rest

def isIndent (c : Char) : Bool := c = ' ' || c = '\t'

/-- The indentation of a line that is not blank. -/
def indent? (line : List Char) : Option Nat :=
  if line.all isIndent then none else some (line.takeWhile isIndent).length

/-- Writes three quotes for three quotes behind a backslash. -/
def plainQuotes : List Char → List Char
  | '\\' :: '"' :: '"' :: '"' :: rest => '"' :: '"' :: '"' :: plainQuotes rest
  | c :: rest => c :: plainQuotes rest
  | [] => []

/-- The text of a block string. -/
def unquoteBlock (cs : List Char) : String :=
  let all := lines [] cs
  let common := all.tail.filterMap indent?
  let cut (line : List Char) : List Char :=
    match common.min? with
    | some n => line.drop n
    | none => []
  let cutLines := match all with
    | first :: rest => first :: rest.map cut
    | [] => []
  let blank (p : List Char × List Char) : Bool := p.1.all isIndent
  let kept := (((all.zip cutLines).dropWhile blank).reverse.dropWhile blank).reverse
  String.ofList (List.intercalate ['\n'] (kept.map fun p => plainQuotes p.2))

end RowIdentity.Graph.Literal
