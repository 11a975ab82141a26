import RowIdentity.Text.Decimal

/-!
# Tokens of query documents

* `Token` — a mark, a name, a number or a string
* `Token.next?` — the next token of a text, with the rest
* `Token.ofText?` — all tokens; brackets may be nested fifty deep
-/

namespace RowIdentity.Graph

/-- A token. Numbers and strings carry their text as it is written between their delimiters. -/
inductive Token where
  | mark (c : Char)
  /-- Three points. -/
  | spread
  | name (s : String)
  | int (cs : List Char)
  | float
  | str (s : List Char)
  | blockStr (s : List Char)
deriving DecidableEq, Repr

namespace Token

/-- What is left of a text. -/
abbrev Rest := List Char

/-- Drops blanks, commas and comments. -/
def blanks (inComment : Bool) : Rest → Rest
  | [] => []
  | c :: rest =>
    if inComment then blanks (!(c = '\r' || c = '\n')) rest
    else if c = '#' then blanks true rest
    else if c = ' ' || c = ',' || c = '\t' || c = '\r' || c = '\n' || c = '\ufeff' then
      blanks false rest
    else c :: rest

def isNameStart (c : Char) : Bool := c.isAlpha || c = '_'

def isNameChar (c : Char) : Bool := c.isAlphanum || c = '_'

/-- The marks of one character. -/
def isMark (c : Char) : Bool := "!$:=@|()[]{}&".toList.contains c

/-- What ends a number. -/
def endsNumber (c : Char) : Bool :=
  c = ' ' || c = '\n' || c = '\r' || c = '\t' || c = ',' || c = '#' || isMark c

/-- An integer: a minus sign or none, and digits without a leading zero. -/
def isInteger (cs : List Char) : Bool :=
  let ds := if cs.head? = some '-' then cs.tail else cs
  ds = ['0'] || (Decimal.isNumeral ds && ds.head? ≠ some '0')

/-- An exponent: a sign and digits, or digits of which the first is from 1 to 8. -/
def isExponent (cs : List Char) : Bool :=
  match cs with
  | [] => false
  | c :: rest =>
    if c = '-' || c = '+' then Decimal.isNumeral rest
    else '0' < c && c < '9' && rest.all Char.isDigit

/-- A number with a fraction, an exponent, or both. -/
def isFloat (cs : List Char) : Bool :=
  let whole := cs.takeWhile fun c => c ≠ '.' && c ≠ 'e' && c ≠ 'E'
  match cs.drop whole.length with
  | '.' :: rest =>
    let fraction := rest.takeWhile fun c => c ≠ 'e' && c ≠ 'E'
    isInteger whole && Decimal.isNumeral fraction &&
      match rest.drop fraction.length with
      | [] => true
      | _ :: e => isExponent e
  | _ :: e => isInteger whole && isExponent e
  | [] => false

/-- The characters of a string up to its closing quote, escapes as they are written. -/
def stringBody (escaped : Bool) (done : List Char) : Rest → Option (List Char × Rest)
  | [] => none
  | c :: rest =>
    if c = '"' && !escaped then some (done.reverse, rest)
    else if c = '\n' then none
    else stringBody (!escaped && c = '\\') (c :: done) rest

/-- The characters of a block string up to three quotes without a backslash before them. -/
def blockBody (done : List Char) : Rest → Option (List Char × Rest)
  | [] => none
  | '"' :: '"' :: '"' :: rest =>
    if done.head? = some '\\' then blockBody ('"' :: '"' :: '"' :: done) rest
    else some (done.reverse, rest)
  | c :: rest => blockBody (c :: done) rest

/-- The next token, if the text goes on. -/
def next? (c : Char) (rest : Rest) : Option (Token × Rest) :=
  if isMark c then some (.mark c, rest)
  else if c = '.' then
    if rest.take 2 = ['.', '.'] then some (.spread, rest.drop 2) else none
  else if isNameStart c then
    some (.name (String.ofList (c :: rest.takeWhile isNameChar)), rest.dropWhile isNameChar)
  else if c = '-' || c.isDigit then
    let cs := c :: rest.takeWhile (!endsNumber ·)
    let rest := rest.dropWhile (!endsNumber ·)
    if isInteger cs then some (.int cs, rest)
    else if isFloat cs then some (.float, rest)
    else none
  else if c = '"' then
    if rest.take 2 = ['"', '"'] then
      (blockBody [] (rest.drop 2)).map fun (s, rest) => (.blockStr s, rest)
    else (stringBody false [] rest).map fun (s, rest) => (.str s, rest)
  else none

/-- How deep brackets may be nested. -/
def maxDepth : Nat := 50

/-- The nesting behind a token; `none` when it is too deep. -/
def depthAfter (depth : Nat) : Token → Option Nat
  | .mark c =>
    if c = '(' || c = '[' || c = '\x7b' then
      if depth < maxDepth then some (depth + 1) else none
    else if c = ')' || c = ']' || c = '\x7d' then some (depth - 1)
    else some depth
  | _ => some depth

/-- The tokens of a text of at most `fuel` characters. -/
def scan : Nat → Nat → List Token → Rest → Option (List Token)
  | 0, _, _, _ => none
  | fuel + 1, depth, done, rest =>
    match blanks false rest with
    | [] => some done.reverse
    | c :: rest => do
      let (t, rest) ← next? c rest
      let depth ← depthAfter depth t
      scan fuel depth (t :: done) rest

def ofText? (s : String) : Option (List Token) := scan (s.toList.length + 1) 0 [] s.toList

end Token

end RowIdentity.Graph
