import RowIdentity.Text.Hexadecimal

/-!
# UUIDs

A UUID is its thirty-two hexadecimal digits.

* `Uuid.toText` — the lowercase text in groups of 8, 4, 4, 4 and 12 digits
* `Uuid.parse?` — reads four layouts: bare digits, hyphenated, hyphenated in braces, and
  hyphenated behind `urn:uuid:`
* `Uuid.IsV4` — version 4 with the RFC variant
* `isCanonicalV4` — whether a text is the lowercase hyphenated text of such a UUID
-/

namespace RowIdentity

/-- A UUID, as its hexadecimal digits from the most significant one on. -/
structure Uuid where
  digits : List (Fin 16)
  length_digits : digits.length = 32
deriving DecidableEq

namespace Uuid

def zero : Uuid := ⟨List.replicate 32 ⟨0, by decide⟩, rfl⟩

def ofDigits? (ds : List (Fin 16)) : Option Uuid :=
  if h : ds.length = 32 then some ⟨ds, h⟩ else none

/-- Puts hyphens between groups of 8, 4, 4, 4 and the remaining characters. -/
def hyphenate (cs : List Char) : List Char :=
  cs.take 8 ++ '-' :: ((cs.drop 8).take 4 ++ '-' :: ((cs.drop 12).take 4 ++ '-' ::
    ((cs.drop 16).take 4 ++ '-' :: cs.drop 20)))

/-- Drops the hyphens of a hyphenated layout; they stand at offsets 8, 13, 18 and 23. -/
def dehyphenate? (cs : List Char) : Option (List Char) :=
  if cs[8]? = some '-' && cs[13]? = some '-' && cs[18]? = some '-' && cs[23]? = some '-' then
    some (cs.take 8 ++ (cs.drop 9).take 4 ++ (cs.drop 14).take 4 ++ (cs.drop 19).take 4 ++
      cs.drop 24)
  else none

/-- The characters of the lowercase hyphenated text. -/
def toChars (u : Uuid) : List Char := hyphenate (u.digits.map Hexadecimal.digit)

def toText (u : Uuid) : String := String.ofList u.toChars

def ofHex? (cs : List Char) : Option Uuid := (cs.mapM Hexadecimal.digitValue?).bind ofDigits?

def ofHyphenated? (cs : List Char) : Option Uuid :=
  if cs.length = 36 then (dehyphenate? cs).bind ofHex? else none

/-- Takes a hyphenated layout out of braces or from behind `urn:uuid:`, in any case. -/
def unwrap (cs : List Char) : List Char :=
  if cs.length = 38 && cs.head? = some '{' && cs.getLast? = some '}' then cs.tail.dropLast
  else if cs.length = 45 && (cs.take 9).map Char.toLower = "urn:uuid:".toList then cs.drop 9
  else cs

/-- Reads a UUID in any of its four layouts. -/
def parse? (s : String) : Option Uuid :=
  let cs := s.toList
  if cs.length = 32 then ofHex? cs else ofHyphenated? (unwrap cs)

/-- The order of UUIDs as 128-bit numbers. -/
def le (u v : Uuid) : Bool := !(v.digits.map Fin.val < u.digits.map Fin.val)

/-- Version 4 with the RFC variant: the thirteenth digit is 4, the seventeenth is 8, 9, a or b. -/
def IsV4 (u : Uuid) : Prop :=
  u.digits[12]? = some 4 ∧ u.digits[16]?.any (fun d => 8 ≤ d.val && d.val ≤ 11) = true

instance (u : Uuid) : Decidable u.IsV4 := by unfold IsV4; infer_instance

end Uuid

/-- A lowercase hexadecimal digit. -/
def isLowerHex (c : Char) : Bool := ('0' ≤ c && c ≤ '9') || ('a' ≤ c && c ≤ 'f')

/-- What stands at each place of a canonical version 4 text. -/
def canonicalV4 : List (Char → Bool) :=
  List.replicate 8 isLowerHex ++ (· == '-') :: (List.replicate 4 isLowerHex ++ (· == '-') ::
    (· == '4') :: (List.replicate 3 isLowerHex ++ (· == '-') ::
      (['8', '9', 'a', 'b'].contains ·) :: (List.replicate 3 isLowerHex ++ (· == '-') ::
        List.replicate 12 isLowerHex)))

/-- Whether each character of a text satisfies the test at its place, and no place is left. -/
def matchesAll : List (Char → Bool) → List Char → Bool
  | [], [] => true
  | p :: ps, c :: cs => p c && matchesAll ps cs
  | _, _ => false

/-- Whether a text is a canonical lowercase hyphenated UUID of version 4. -/
def isCanonicalV4 (s : String) : Bool := matchesAll canonicalV4 s.toList

end RowIdentity
