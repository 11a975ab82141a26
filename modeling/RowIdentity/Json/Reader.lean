import RowIdentity.Json.Basic
import RowIdentity.Text.Decimal
import RowIdentity.Text.Hexadecimal

/-!
# Reading JSON text

Each reader takes what is left of the text and returns a value with the rest; `none` says that
the text is malformed there.

* `Json.Reader.value` — one value
* `Json.parse?` — a whole text
* `Json.Reader.Manner` — values are kept, or only passed over, which asks less of numbers, escapes
  and depth
-/

namespace RowIdentity.Json.Reader

/-- What is left of a text. -/
abbrev Rest := List Char

/-- Whether a value is wanted or only passed over. -/
inductive Manner where
  | keep
  | pass
deriving DecidableEq

/-- The four blanks of JSON. -/
def isBlank (c : Char) : Bool := c = ' ' || c = '\t' || c = '\n' || c = '\r'

def blanks (cs : Rest) : Rest := cs.dropWhile isBlank

/-- Four hexadecimal digits. -/
def hex4 : Rest → Option (Nat × Rest)
  | a :: b :: c :: d :: rest => (Hexadecimal.value? [a, b, c, d]).map (·, rest)
  | _ => none

/-- The character of an escape behind its backslash; two escapes make up one that needs two
UTF-16 units, and half of such a pair is refused. -/
def escape (manner : Manner) : Rest → Option (Char × Rest)
  | '"' :: rest => some ('"', rest)
  | '\\' :: rest => some ('\\', rest)
  | '/' :: rest => some ('/', rest)
  | 'b' :: rest => some ('\x08', rest)
  | 'f' :: rest => some ('\x0c', rest)
  | 'n' :: rest => some ('\n', rest)
  | 'r' :: rest => some ('\r', rest)
  | 't' :: rest => some ('\t', rest)
  | 'u' :: rest => do
    let (n, rest) ← hex4 rest
    if manner = .pass then some ('?', rest)
    else if 0xDC00 ≤ n && n ≤ 0xDFFF then none
    else if 0xD800 ≤ n && n ≤ 0xDBFF then
      match rest with
      | '\\' :: 'u' :: rest => do
        let (m, rest) ← hex4 rest
        if 0xDC00 ≤ m && m ≤ 0xDFFF then
          some (Char.ofNat (0x10000 + (n - 0xD800) * 1024 + (m - 0xDC00)), rest)
        else none
      | _ => none
    else some (Char.ofNat n, rest)
  | _ => none

/-- The characters of a string behind its opening quote; `done` holds those read, last first. -/
def chars (manner : Manner) : Nat → List Char → Rest → Option (List Char × Rest)
  | 0, _, _ => none
  | _ + 1, _, [] => none
  | fuel + 1, done, c :: rest =>
    if c = '"' then some (done.reverse, rest)
    else if c = '\\' then do
      let (e, rest) ← escape manner rest
      chars manner fuel (e :: done) rest
    else if c.toNat < 32 then none
    else chars manner fuel (c :: done) rest

/-- A string behind its opening quote. -/
def string (manner : Manner) (fuel : Nat) (rest : Rest) : Option (String × Rest) := do
  let (cs, rest) ← chars manner fuel [] rest
  some (String.ofList cs, rest)

def digits (rest : Rest) : List Char × Rest :=
  (rest.takeWhile Char.isDigit, rest.dropWhile Char.isDigit)

/-- How many of the digits, after the number `n`, still make an unsigned word; the others
only count as places. -/
def absorb (n : Nat) : List Char → Nat × Nat
  | [] => (n, 0)
  | d :: ds =>
    let n' := n * 10 + Decimal.digitValue d
    if n' < UInt64.size then
      let (m, left) := absorb n' ds
      (m, left)
    else (n, ds.length + 1)

/-- The exponent of a number, with the rest; zero without one. -/
def exponent : Rest → Option (Option Int × Rest)
  | e :: rest =>
    if e = 'e' || e = 'E' then
      let negative := rest.head? = some '-'
      let rest := if negative || rest.head? = some '+' then rest.tail else rest
      let (ds, rest) := digits rest
      if ds.isEmpty then none
      else
        let n : Int := Decimal.value ds
        some (some (if negative then -n else n), rest)
    else some (none, e :: rest)
  | [] => some (none, [])

/-- A number: digits without a leading zero, a fraction and an exponent. Integers keep their value
within 64 bits; all else is a double, whose first digits that fit in 64 bits are scaled by a power
of ten. -/
def number (manner : Manner) (rest : Rest) : Option (JsonNumber × Rest) := do
  let negative := rest.head? = some '-'
  let (whole, rest) := digits (if negative then rest.tail else rest)
  if whole.isEmpty || (whole.head? = some '0' && whole.length > 1) then none
  let hasPoint := rest.head? = some '.'
  let (fraction, rest) := if hasPoint then digits rest.tail else ([], rest)
  if hasPoint && fraction.isEmpty then none
  let (e, rest) ← exponent rest
  let (n, wholeLeft) := absorb 0 whole
  let fits := !negative || (0 < n && Int64.minValue.toInt ≤ -(n : Int))
  if !hasPoint && e = none && wholeLeft = 0 && fits then
    some (.int (if negative then -(n : Int) else n), rest)
  else
    let (n, fractionLeft) := if wholeLeft = 0 then absorb n fraction
      else match fraction with
        | [] => (n, 0)
        | _ => absorb n fraction
    let places : Int := (wholeLeft : Int) - ((fraction.length : Int) - fractionLeft)
    let power := places + e.getD 0
    if manner = .pass then some (.int 0, rest)
    else
      let x ← Binary64.ofScientific? negative n power
      some (.real x, rest)

def word (w : String) (rest : Rest) : Option Rest :=
  if w.toList.isPrefixOf rest then some (rest.drop w.length) else none

mutual

/-- One value; `depth` more levels of nesting are allowed. -/
def value (manner : Manner) : Nat → Nat → Rest → Option (Json × Rest)
  | 0, _, _ => none
  | fuel + 1, depth, rest =>
    match blanks rest with
    | '"' :: rest => (string manner fuel rest).map fun (s, rest) => (.str s, rest)
    | '[' :: rest =>
      if depth = 0 then none else
      match blanks rest with
      | ']' :: rest => some (.arr [], rest)
      | rest => items manner fuel (depth - 1) [] rest
    | '{' :: rest =>
      if depth = 0 then none else
      match blanks rest with
      | '}' :: rest => some (.obj [], rest)
      | rest => fields manner fuel (depth - 1) [] rest
    | 'n' :: rest => (word "ull" rest).map (Json.null, ·)
    | 't' :: rest => (word "rue" rest).map (Json.bool true, ·)
    | 'f' :: rest => (word "alse" rest).map (Json.bool false, ·)
    | rest => (number manner rest).map fun (n, rest) => (.num n, rest)

/-- The items of an array, up to its closing bracket. -/
def items (manner : Manner) : Nat → Nat → List Json → Rest → Option (Json × Rest)
  | 0, _, _, _ => none
  | fuel + 1, depth, done, rest => do
    let (v, rest) ← value manner fuel depth rest
    match blanks rest with
    | ',' :: rest => items manner fuel depth (v :: done) rest
    | ']' :: rest => some (.arr (v :: done).reverse, rest)
    | _ => none

/-- The fields of an object, up to its closing brace. -/
def fields (manner : Manner) : Nat → Nat → List (String × Json) → Rest → Option (Json × Rest)
  | 0, _, _, _ => none
  | fuel + 1, depth, done, rest =>
    match blanks rest with
    | '"' :: rest => do
      let (name, rest) ← string manner fuel rest
      match blanks rest with
      | ':' :: rest =>
        let (v, rest) ← value manner fuel depth rest
        let done := putField done name v
        match blanks rest with
        | ',' :: rest => fields manner fuel depth done rest
        | '}' :: rest => some (.obj done, rest)
        | _ => none
      | _ => none
    | _ => none

end

/-- How deep arrays and objects may be nested. -/
def maxDepth : Nat := 127

end Reader

open Reader in
/-- The value of a whole text; blanks may stand around it. -/
def parse? (text : String) : Option Json :=
  let cs := text.toList
  match value .keep (2 * cs.length + 2) maxDepth cs with
  | some (v, rest) => if (blanks rest).isEmpty then some v else none
  | none => none

end RowIdentity.Json
