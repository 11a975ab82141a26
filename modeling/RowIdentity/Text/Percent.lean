import RowIdentity.Text.Hexadecimal
import RowIdentity.Text.Utf8

/-!
# Percent-encoded text

* `decodeBytes` — the bytes of a text; an escape that is none stays as it is
* `segment?` — a path segment, which must be well-formed UTF-8
* `formPairs` — the names and values of a query string, where a plus sign is a blank and what is
  not well formed is replaced
-/

namespace RowIdentity.Percent

/-- The bytes an encoded text stands for. -/
def decodeBytes : List UInt8 → List UInt8
  | b :: h :: l :: more =>
    match b == 37, Hexadecimal.value? [Char.ofNat h.toNat, Char.ofNat l.toNat] with
    | true, some n => UInt8.ofNat n :: decodeBytes more
    | _, _ => b :: decodeBytes (h :: l :: more)
  | rest => rest

/-- The text of a path segment. -/
def segment? (s : String) : Option String := Utf8.decode? (decodeBytes (Utf8.encode s))

/-- A name or a value of a query string. -/
def formText (cs : List Char) : String :=
  let spaced := cs.map fun c => if c = '+' then ' ' else c
  Utf8.decodeReplacing (decodeBytes (Utf8.encode (String.ofList spaced)))

/-- Cuts a list at every occurrence of a character. -/
def splitAll (c : Char) : List Char → List (List Char)
  | [] => [[]]
  | d :: rest =>
    if d = c then [] :: splitAll c rest
    else match splitAll c rest with
      | part :: parts => (d :: part) :: parts
      | [] => [[d]]

/-- The names and values of a query string; a name without an equals sign has the empty value. -/
def formPairs (query : List Char) : List (String × String) :=
  ((splitAll '&' query).filter (!·.isEmpty)).map fun pair =>
    (formText (pair.takeWhile (· ≠ '=')), formText (pair.dropWhile (· ≠ '=')).tail)

end RowIdentity.Percent
