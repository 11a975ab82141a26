/-!
# Decimal numerals

Natural numbers written with the ten ASCII digits, and whole numbers with a sign in front.

* `value` — the number a run of digits stands for
* `ofNat`, `ofInt` — the shortest numeral of a number
* `natBelow?` — the number of a numeral with an optional plus sign, if it is below a bound
-/

namespace RowIdentity.Decimal

def digitValue (c : Char) : Nat := c.toNat - 48

/-- The number a run of digits stands for; the empty run stands for zero. -/
def value (digits : List Char) : Nat :=
  digits.foldl (fun n c => 10 * n + digitValue c) 0

/-- A numeral is a non-empty run of ASCII digits. -/
def isNumeral (cs : List Char) : Bool := !cs.isEmpty && cs.all Char.isDigit

/-- The digits of a number, without leading zeros. -/
def ofNat (n : Nat) : List Char := Nat.toDigits 10 n

/-- The digits of a whole number, behind a minus sign when it is negative. -/
def ofInt : Int → List Char
  | .ofNat n => ofNat n
  | .negSucc n => '-' :: ofNat (n + 1)

def text (n : Int) : String := String.ofList (ofInt n)

/-- A size as a query string spells it: an optional plus sign and digits, below the bound. -/
def natBelow? (bound : Nat) (cs : List Char) : Option Nat :=
  let digits := if cs.head? = some '+' then cs.tail else cs
  if isNumeral digits && value digits < bound then some (value digits) else none

/-- A signed whole number: an optional sign and digits, at least `lower` and at most `upper`. -/
def intWithin? (lower upper : Int) (cs : List Char) : Option Int :=
  let negative := cs.head? = some '-'
  let digits := if negative || cs.head? = some '+' then cs.tail else cs
  let n : Int := if negative then -(value digits : Int) else value digits
  if isNumeral digits && lower ≤ n && n ≤ upper then some n else none

end RowIdentity.Decimal
