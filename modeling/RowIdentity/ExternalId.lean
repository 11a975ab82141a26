import RowIdentity.Error
import RowIdentity.Query
import RowIdentity.Scheme
import RowIdentity.Text.Base64
import RowIdentity.Text.Utf8
import RowIdentity.Uuid

/-!
# External ids

The three shapes in which an id reaches the program: a canonical UUID of version 4, a bare number,
and a legacy global id, which is `TypeName:key` in base64.

* `ExternalId` — the id of a row as it is shown
* `isNumeric`, `isCanonicalV4` — the shapes that can be told by looking
* `parsePublicId`, `parseKey`, `decodeGlobalId` — reading an id of a known shape
* `encodeGlobalId` — writing a legacy global id
-/

namespace RowIdentity

/-- The id of a row as it is shown. -/
inductive ExternalId where
  | legacy (pk : Int64)
  | pk (pk : Int64)
  | publicId (id : Uuid)
deriving DecidableEq

namespace ExternalId

def key? : ExternalId → Option Int64
  | legacy k | pk k => some k
  | publicId _ => none

def publicId? : ExternalId → Option Uuid
  | publicId u => some u
  | _ => none

def text : ExternalId → String
  | legacy k | pk k => Decimal.text k.toInt
  | publicId u => u.toText

/-- An id in JSON: a key is a number. -/
def toJson : ExternalId → Json
  | legacy k | pk k => .int k.toInt
  | publicId u => .str u.toText

end ExternalId

/-- Whether a text is a non-empty run of ASCII digits. -/
def isNumeric (s : String) : Bool := Decimal.isNumeral s.toList

/-- Reads a public id in any layout and of any version. The reason of a refusal is cut short: what
the reader of UUIDs says of the text, behind a colon, is left out. -/
def parsePublicId (s : String) : IdResult Uuid :=
  match Uuid.parse? s with
  | some u => .ok u
  | none => .error (.invalidFormat s "not a valid UUID")

/-- Reads a key: digits only, and no more than 64 bits. -/
def parseKey (s : String) : IdResult Int64 :=
  let n := Decimal.value s.toList
  if !isNumeric s then .error (.invalidFormat s "not a numeric primary key")
  else if n ≤ Int64.maxValue.toInt.toNat then .ok (Int64.ofNat n)
  else .error (.invalidFormat s
    "primary key out of range: number too large to fit in target type")

/-- The legacy global id of a type name and an id. -/
def encodeGlobalId (typeName id : String) : String :=
  String.ofList (Base64.encode (Utf8.encode (typeName ++ ":" ++ id)))

/-- The type name and the id of a legacy global id; neither may be empty, and the first colon
stands between them. Where the text is no base64 the reason is cut short: what the decoder says of
it, behind a colon, is left out. -/
def decodeGlobalId (s : String) : IdResult (String × String) :=
  match Base64.decode? s.toList with
  | none => .error (.invalidFormat s "not a base64 global id")
  | some bytes =>
    match Utf8.decode? bytes with
    | none => .error (.invalidFormat s "global id is not valid UTF-8")
    | some text =>
      match splitOnce ':' text.toList with
      | some (typeName, id) =>
        if typeName.isEmpty || id.isEmpty then
          .error (.invalidFormat s "global id must decode to TypeName:id")
        else .ok (String.ofList typeName, String.ofList id)
      | none => .error (.invalidFormat s "global id must decode to TypeName:id")

/-- The global id of an object: type name and id in base64 under the Legacy scheme, else the id. -/
def IdScheme.globalId (scheme : IdScheme) (typeName : String) (id : ExternalId) : String :=
  match scheme with
  | .legacy => encodeGlobalId typeName id.text
  | .publicId | .pk => id.text

end RowIdentity
