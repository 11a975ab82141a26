import RowIdentity.Instant
import RowIdentity.Json.Basic
import RowIdentity.Uuid

/-!
# Rows

* `Row` — a stored row: its entity type, its key and the other columns as one JSON value
* `AnnotatedRow` — a row with the public id a query found for it
-/

namespace RowIdentity

/-- A stored row. -/
structure Row where
  entityType : String
  pk : Int64
  data : Json
  createdAt : Instant
deriving BEq, Repr

/-- A row of a query's result; without a public id when the query did not ask for one or the row
has none. -/
structure AnnotatedRow where
  row : Row
  publicId : Option Uuid
deriving BEq

namespace Row

def isA (r : Row) (entityType : String) : Bool := r.entityType == entityType

/-- The columns of a row and its creation time. -/
def toFields (r : Row) : List (String × Json) :=
  [("entity_type", .str r.entityType), ("pk", .int r.pk.toInt), ("data", r.data),
    ("created_at", .str r.createdAt.text)]

def toJson (r : Row) : Json := .obj r.toFields

end Row

/-- Reads a 64-bit key. -/
def key? (j : Json) : Option Int64 := do
  let n ← j.int?
  if Int64.minValue.toInt ≤ n && n ≤ Int64.maxValue.toInt then some (Int64.ofInt n) else none

def instant? (j : Json) : Option Instant := j.str?.bind Instant.parse?

/-- Reads a row; its data may be left out. -/
def Row.ofJson? (j : Json) : Option Row := do
  let fields ← j.record? ["entity_type", "pk", "data", "created_at"]
  let entityType ← Json.required? fields "entity_type" Json.str?
  let pk ← Json.required? fields "pk" key?
  let data ← Json.withDefault? fields "data" some .null
  let createdAt ← Json.required? fields "created_at" instant?
  some ⟨entityType, pk, data, createdAt⟩

/-- An annotated row as a JSON object; a public id is a field among the others. -/
def AnnotatedRow.toJson (r : AnnotatedRow) : Json :=
  .obj (r.row.toFields ++ match r.publicId with
    | some u => [("public_id", .str u.toText)]
    | none => [])

end RowIdentity
