/-!
# Binary floating-point numbers in decimal

A finite double is a sign and `mantissa · 2 ^ exponent`, all of it exact natural numbers.

* `nearest?` — the double nearest to a quotient, halves to the even mantissa
* `ofScientific?` — a number read as an integer that is then scaled by a power of ten, each of the
  two steps rounded
* `shortest` — the fewest decimal digits that round back to the same double
* `text` — those digits, positional up to sixteen places and with an exponent beyond
-/

namespace RowIdentity

/-- The value is `mantissa · 2 ^ exponent`, negated when `negative`. -/
structure Binary64 where
  negative : Bool
  mantissa : Nat
  exponent : Int
deriving DecidableEq, Repr

namespace Binary64

def zero : Binary64 := ⟨false, 0, 0⟩

/-- A quotient to the nearest integer, a half to the even one. -/
def roundDiv (num den : Nat) : Nat :=
  let q := num / den
  let r := num % den
  if 2 * r > den || (2 * r = den && q % 2 = 1) then q + 1 else q

def twoTo (k : Nat) : Nat := Nat.pow 2 k

def tens (k : Nat) : Nat := Nat.pow 10 k

/-- `num / (den · 2 ^ e)` to the nearest integer. -/
def roundScaled (num den : Nat) (e : Int) : Nat :=
  if 0 ≤ e then roundDiv num (den * twoTo e.toNat) else roundDiv (num * twoTo (-e).toNat) den

/-- `num / (den · 2 ^ e)` rounded down. -/
def floorScaled (num den : Nat) (e : Int) : Nat :=
  if 0 ≤ e then num / (den * twoTo e.toNat) else num * twoTo (-e).toNat / den

/-- The double nearest to a quotient; `none` beyond the largest one. -/
def nearest? (negative : Bool) (num den : Nat) : Option Binary64 :=
  if num = 0 then some ⟨negative, 0, 0⟩ else
    let guess : Int := (Nat.log2 num : Int) - Nat.log2 den - 52
    let e := max (-1074) (if floorScaled num den guess < twoTo 52 then guess - 1 else guess)
    let m := roundScaled num den e
    let (m, e) := if m = twoTo 53 then (twoTo 52, e + 1) else (m, e)
    if m = 0 then some ⟨negative, 0, 0⟩ else if 971 < e then none else some ⟨negative, m, e⟩

/-- `(num / den) · 2 ^ e` to the nearest double. -/
def nearestScaled? (negative : Bool) (num den : Nat) (e : Int) : Option Binary64 :=
  if 0 ≤ e then nearest? negative (num * twoTo e.toNat) den
  else nearest? negative num (den * twoTo (-e).toNat)

def mul? (x y : Binary64) : Option Binary64 :=
  nearestScaled? (x.negative != y.negative) (x.mantissa * y.mantissa) 1 (x.exponent + y.exponent)

/-- The rounded quotient by a number that is not zero. -/
def div? (x y : Binary64) : Option Binary64 :=
  nearestScaled? (x.negative != y.negative) x.mantissa y.mantissa (x.exponent - y.exponent)

/-- A power of ten as a double. -/
def tenTo (k : Nat) : Binary64 := (nearest? false (tens k) 1).getD zero

/-- Scales by ten to the power `e`; steps of at most 308 places, down to zero. -/
def scale? (x : Binary64) (e : Int) : Option Binary64 :=
  if 0 ≤ e then
    if x.mantissa = 0 then some x else if e ≤ 308 then mul? x (tenTo e.toNat) else none
  else
    let places := (-e).toNat
    if places ≤ 308 then div? x (tenTo places)
    else if places ≤ 616 then do
      let y ← div? x (tenTo 308)
      div? y (tenTo (places - 308))
    else some { zero with negative := x.negative }

/-- An integer, scaled by ten to the power `e`; `none` beyond the largest double. -/
def ofScientific? (negative : Bool) (significand : Nat) (e : Int) : Option Binary64 := do
  let x ← nearest? negative significand 1
  scale? x e

/-- Whether `c · 10 ^ s ≤ u · 2 ^ e`. -/
def decimalLe (c : Nat) (s : Int) (u : Nat) (e : Int) : Bool :=
  c * tens s.toNat * twoTo (-e).toNat ≤ u * twoTo e.toNat * tens (-s).toNat

/-- Whether `c · 10 ^ s < u · 2 ^ e`. -/
def decimalLt (c : Nat) (s : Int) (u : Nat) (e : Int) : Bool :=
  c * tens s.toNat * twoTo (-e).toNat < u * twoTo e.toNat * tens (-s).toNat

/-- Whether `c · 10 ^ s` rounds to the double; the ends of the interval belong to it when the
mantissa is even. -/
def roundsBack (x : Binary64) (c : Nat) (s : Int) : Bool :=
  let e := x.exponent - 2
  let low := 4 * x.mantissa - (if x.mantissa = twoTo 52 && -1074 < x.exponent then 1 else 2)
  let high := 4 * x.mantissa + 2
  if x.mantissa % 2 = 0 then !decimalLt c s low e && decimalLe c s high e
  else !decimalLe c s low e && decimalLt c s high e

/-- The value on the grid of multiples of `10 ^ s`, rounded down. -/
def floorGrid (x : Binary64) (s : Int) : Nat :=
  (x.mantissa * twoTo x.exponent.toNat * tens (-s).toNat) /
    (twoTo (-x.exponent).toNat * tens s.toNat)

/-- Of two neighbours on a grid that both round back, the nearer one, on a tie the even one. -/
def nearer (x : Binary64) (c : Nat) (s : Int) : Nat :=
  -- twice the value against `2 c + 1` on the grid
  let above := decimalLt (2 * c + 1) s (2 * x.mantissa) x.exponent
  let tie := !above && decimalLe (2 * c + 1) s (2 * x.mantissa) x.exponent
  if above || (tie && c % 2 = 1) then c + 1 else c

/-- The decimal exponent of the leading digit of a value that is not zero, from an estimate. -/
def leading (x : Binary64) : Int :=
  let bits := (Nat.log2 x.mantissa : Int) + x.exponent
  let guess := bits * 30103 / 100000 - 1
  let fits (k : Int) : Bool := decimalLe 1 k x.mantissa x.exponent
  if fits (guess + 2) then guess + 2 else if fits (guess + 1) then guess + 1 else guess

/-- The digits and the exponent of the shortest decimal, looking at `left` more lengths. -/
def shortestFrom (x : Binary64) (top : Int) : Nat → Nat × Int
  | 0 => (x.mantissa, 0)
  | left + 1 =>
    let s := top - (17 - (left + 1) : Int)
    let c := floorGrid x s
    match roundsBack x c s, roundsBack x (c + 1) s with
    | true, true => (nearer x c s, s)
    | true, false => (c, s)
    | false, true => (c + 1, s)
    | false, false => shortestFrom x top left

/-- Drops trailing zeros, at most as many as the digits a double has. -/
def trimZeros : Nat → Nat × Int → Nat × Int
  | 0, p => p
  | n + 1, (c, s) => if c ≠ 0 && c % 10 = 0 then trimZeros n (c / 10, s + 1) else (c, s)

/-- The fewest digits that round back to the double, as a number and a power of ten. -/
def shortest (x : Binary64) : Nat × Int :=
  trimZeros 17 (shortestFrom x x.leading 17)

/-- The text of a double: positional when the leading digit is at most sixteen places before the
point or five behind it, with an exponent otherwise. -/
def text (x : Binary64) : List Char :=
  let sign := if x.negative then ['-'] else []
  if x.mantissa = 0 then sign ++ ['0', '.', '0'] else
    let (c, k) := shortest x
    let ds := Nat.toDigits 10 c
    let point : Int := ds.length + k
    let body :=
      if 0 ≤ k && point ≤ 16 then ds ++ List.replicate k.toNat '0' ++ ['.', '0']
      else if 0 < point && point ≤ 16 then ds.take point.toNat ++ '.' :: ds.drop point.toNat
      else if -5 < point && point ≤ 0 then '0' :: '.' :: List.replicate (-point).toNat '0' ++ ds
      else
        let e := match point - 1 with
          | .ofNat n => Nat.toDigits 10 n
          | .negSucc n => '-' :: Nat.toDigits 10 (n + 1)
        match ds with
        | [d] => d :: 'e' :: e
        | d :: rest => d :: '.' :: rest ++ 'e' :: e
        | [] => []
    sign ++ body

end Binary64

end RowIdentity
