/-!
# UTF-8

* `encode`, `decode?` — the bytes of a text, and the text of bytes that are well formed
* `decodeReplacing` — the text of any bytes: every maximal ill-formed part becomes one U+FFFD
-/

namespace RowIdentity.Utf8

/-- The bytes of a text. -/
def encode (s : String) : List UInt8 := s.toByteArray.data.toList

/-- The text of well-formed bytes. -/
def decode? (bytes : List UInt8) : Option String := String.fromUTF8? ⟨bytes.toArray⟩

/-- Where a decoder stands: at the start of a character, or inside one whose bits so far are
`bits`, that needs `more` bytes, the next of them between `low` and `high`. -/
inductive State where
  | start
  | inside (bits more : Nat) (low high : Nat)

/-- The character that stands for bytes that are not well formed. -/
def replacement : Char := '\ufffd'

/-- What the first byte of a character says: characters that end here, and the state after it. -/
def enter (b : UInt8) : List Char × State :=
  let n := b.toNat
  if n < 0x80 then ([Char.ofNat n], .start)
  else if 0xC2 ≤ n && n ≤ 0xDF then ([], .inside (n % 32) 1 0x80 0xBF)
  else if n = 0xE0 then ([], .inside 0 2 0xA0 0xBF)
  else if n = 0xED then ([], .inside 13 2 0x80 0x9F)
  else if 0xE1 ≤ n && n ≤ 0xEF then ([], .inside (n % 16) 2 0x80 0xBF)
  else if n = 0xF0 then ([], .inside 0 3 0x90 0xBF)
  else if 0xF1 ≤ n && n ≤ 0xF3 then ([], .inside (n % 8) 3 0x80 0xBF)
  else if n = 0xF4 then ([], .inside 4 3 0x80 0x8F)
  else ([replacement], .start)

/-- Reads bytes from a state on. -/
def decodeFrom : State → List UInt8 → List Char
  | .start, [] => []
  | .inside .., [] => [replacement]
  | .start, b :: rest => (enter b).1 ++ decodeFrom (enter b).2 rest
  | .inside bits more low high, b :: rest =>
    if low ≤ b.toNat && b.toNat ≤ high then
      let bits := bits * 64 + b.toNat % 64
      if more ≤ 1 then Char.ofNat bits :: decodeFrom .start rest
      else decodeFrom (.inside bits (more - 1) 0x80 0xBF) rest
    else replacement :: ((enter b).1 ++ decodeFrom (enter b).2 rest)

/-- The text of any bytes, with U+FFFD for what is not well formed. -/
def decodeReplacing (bytes : List UInt8) : String := String.ofList (decodeFrom .start bytes)

end RowIdentity.Utf8
