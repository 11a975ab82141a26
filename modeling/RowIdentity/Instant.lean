import RowIdentity.Text.Blank
import RowIdentity.Text.Calendar
import RowIdentity.Text.Decimal

/-!
# Points in time

* `Instant` — seconds and nanoseconds since 1970 in universal time
* `Instant.parse?` — reads a date and a time with an offset, in the manner of RFC 3339 with blanks
  allowed between the parts
* `Instant.text` — the date and the time in universal time, with 0, 3, 6 or 9 digits of a fraction
* `Instant.micros` — microseconds since 1970
-/

namespace RowIdentity

/-- Seconds since the start of 1970 in universal time; `nanos` runs on beyond a thousand million
during a leap second. -/
structure Instant where
  seconds : Int
  nanos : Nat
deriving DecidableEq, Repr, Inhabited

namespace Instant

/-- What is left of a text. -/
abbrev Rest := List Char

def blanks (cs : Rest) : Rest := cs.dropWhile Blank.isBlank

/-- At least one and at most `most` digits, behind white space. -/
def number (most : Nat) (cs : Rest) : Option (Nat × Rest) :=
  let cs := blanks cs
  let ds := (cs.take most).takeWhile Char.isDigit
  if ds.isEmpty then none else some (Decimal.value ds, cs.drop ds.length)

/-- A year: four digits at most, or any number behind a sign. -/
def year (cs : Rest) : Option (Int × Rest) :=
  match blanks cs with
  | '-' :: rest =>
    let ds := rest.takeWhile Char.isDigit
    if ds.isEmpty then none else some (-(Decimal.value ds : Int), rest.drop ds.length)
  | '+' :: rest =>
    let ds := rest.takeWhile Char.isDigit
    if ds.isEmpty then none else some (Decimal.value ds, rest.drop ds.length)
  | cs => (number 4 cs).map fun (n, rest) => ((n : Int), rest)

/-- One given character, behind white space. -/
def mark (c : Char) (cs : Rest) : Option Rest :=
  match blanks cs with
  | d :: rest => if d = c then some rest else none
  | [] => none

/-- The nanoseconds of a fraction, if there is one; digits beyond the ninth are dropped. -/
def fraction : Rest → Option (Nat × Rest)
  | '.' :: rest =>
    let ds := rest.takeWhile Char.isDigit
    if ds.isEmpty then none
    else
      let kept := ds.take 9
      some (Decimal.value kept * Nat.pow 10 (9 - kept.length), rest.drop ds.length)
  | rest => some (0, rest)

/-- The seconds of an offset from universal time. -/
def offset (cs : Rest) : Option (Int × Rest) :=
  match cs with
  | 'Z' :: rest | 'z' :: rest => some (0, rest)
  | sign :: rest =>
    if (cs.take 3).map Char.toLower = ['u', 't', 'c'] then some (0, cs.drop 3)
    else if sign = '+' || sign = '-' || sign = '\u2212' then
      match rest with
      | h :: h' :: rest =>
        if !(h.isDigit && h'.isDigit) then none else
        match rest.dropWhile fun c => c = ':' || Blank.isBlank c with
        | m :: m' :: rest =>
          if !(m.isDigit && m'.isDigit) || '5' < m then none
          else
            let seconds : Int := Decimal.value [h, h'] * 3600 + Decimal.value [m, m'] * 60
            some (if sign = '+' then seconds else -seconds, rest)
        | _ => none
      | _ => none
    else none
  | [] => none

/-- Reads a date and a time with an offset. -/
def parse? (s : String) : Option Instant := do
  let (y, rest) ← year s.toList
  let (mo, rest) ← number 2 (← mark '-' rest)
  let (d, rest) ← number 2 (← mark '-' rest)
  let rest ← match rest with
    | c :: rest => if c = 'T' || c = 't' || c = ' ' then some rest else none
    | [] => none
  let (h, rest) ← number 2 rest
  let (mi, rest) ← number 2 (← mark ':' rest)
  let (sec, rest) ← number 2 (← mark ':' rest)
  let (nanos, rest) ← fraction rest
  let (shift, rest) ← offset (blanks rest)
  if !(blanks rest).isEmpty then none
  else if y < -262143 || 262142 < y || mo = 0 || 12 < mo || d = 0 || Calendar.monthLength y mo < d
  then none
  else if 23 < h || 59 < mi || 60 < sec || 86400 ≤ shift.natAbs then none
  else
    let leap := sec = 60
    let secondOfDay : Int := h * 3600 + mi * 60 + (if leap then 59 else sec)
    some ⟨Calendar.dayNumber y mo d * 86400 + secondOfDay - shift,
      if leap then nanos + 1000000000 else nanos⟩

/-- A number with leading zeros up to a width. -/
def padded (width n : Nat) : List Char :=
  let ds := Decimal.ofNat n
  List.replicate (width - ds.length) '0' ++ ds

/-- A year: four digits, with a sign outside that range. -/
def yearText (y : Int) : List Char :=
  if 0 ≤ y && y ≤ 9999 then padded 4 y.toNat
  else if y < 0 then '-' :: padded 4 (-y).toNat else '+' :: padded 4 y.toNat

/-- The fraction of a second in 0, 3, 6 or 9 digits. -/
def fractionText (nanos : Nat) : List Char :=
  if nanos = 0 then []
  else if nanos % 1000000 = 0 then '.' :: padded 3 (nanos / 1000000)
  else if nanos % 1000 = 0 then '.' :: padded 6 (nanos / 1000)
  else '.' :: padded 9 nanos

def text (t : Instant) : String :=
  let day := t.seconds.fdiv 86400
  let second := (t.seconds - day * 86400).toNat
  let (y, mo, d) := Calendar.dateOfDay day
  let leap := 1000000000 ≤ t.nanos
  String.ofList <| yearText y ++ '-' :: padded 2 mo ++ '-' :: padded 2 d ++ 'T' ::
    padded 2 (second / 3600) ++ ':' :: padded 2 (second / 60 % 60) ++ ':' ::
    padded 2 (second % 60 + (if leap then 1 else 0)) ++
    fractionText (t.nanos % 1000000000) ++ ['Z']

def year2000 : Int := 946684800

/-- Microseconds since 1970; what is finer is cut off towards the year 2000. -/
def micros (t : Instant) : Int :=
  Int.tdiv ((t.seconds - year2000) * 1000000000 + t.nanos) 1000 + year2000 * 1000000

/-- The point in time some microseconds after the start of 1970. -/
def ofMicros (n : Int) : Instant :=
  ⟨n.fdiv 1000000, (n - n.fdiv 1000000 * 1000000).toNat * 1000⟩

end Instant

end RowIdentity
