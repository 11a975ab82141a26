import RowIdentity.Mapping
import RowIdentity.Query

/-!
# Selects over rows

A row query becomes one select over the table of its model. What varies with the data is bound to
numbered places and never part of the text.

* `SqlValue` — a bound value
* `RowSelect` — the select of a query; `RowSelect.ofQuery` builds it
* `RowSelect.pieces` — its text and bound values in order
-/

namespace RowIdentity

/-- A value that is bound to a place of a statement. -/
inductive SqlValue where
  | null
  | int (n : Int64)
  | text (s : String)
  | uuid (u : Uuid)
  | time (t : Instant)
  | ints (ns : List Int64)
  | texts (ss : List String)
  | uuids (us : List Uuid)
  | times (ts : List Instant)
deriving DecidableEq

/-- A part of a statement: text, or the place of a bound value. -/
inductive SqlPiece where
  | text (s : String)
  | bind (v : SqlValue)
deriving DecidableEq

namespace SqlPiece

/-- The place of the `n`-th bound value. -/
def place (n : Nat) : String := "$" ++ Decimal.text n

/-- The texts of pieces; places are numbered from a number on. -/
def texts : Nat → List SqlPiece → List String
  | _, [] => []
  | n, text s :: rest => s :: texts n rest
  | n, bind _ :: rest => place n :: texts (n + 1) rest

def render (ps : List SqlPiece) : String := String.join (texts 1 ps)

def values (ps : List SqlPiece) : List SqlValue :=
  ps.filterMap fun
    | text _ => none
    | bind v => some v

end SqlPiece

/-- A select over the rows of one table. -/
structure RowSelect where
  /-- The name of the table between its quotes. -/
  table : String
  entityType : String
  /-- Only the number of rows is wanted. -/
  isCount : Bool
  annotated : Bool
  pks : Option (List Int64)
  publicId : Option Uuid
  /-- The sort keys, the most significant first. -/
  order : List SortKey
  limit : Option Int64
  offset : Option Int64
deriving DecidableEq

namespace RowSelect

/-- The sort keys of a query: equals are put in the order of their keys. -/
def orderOf : Option SortKey → List SortKey
  | none => [⟨.pk, .asc⟩]
  | some ⟨.pk, d⟩ => [⟨.pk, d⟩]
  | some ⟨.publicId, d⟩ => [⟨.publicId, d⟩, ⟨.pk, .asc⟩]

/-- A size as a 64-bit word; one beyond the signed range wraps. -/
def word (n : Nat) : Int64 := Int64.ofNat n

/-- The select of a query, for its rows or for their number. Order and page are of no account for
the number. -/
def ofQuery (table : String) (isCount : Bool) (q : RowQuery) : RowSelect :=
  { table
    entityType := q.entityType
    isCount
    annotated := !isCount && q.annotated
    pks := q.pks
    publicId := q.publicId
    order := if isCount then [] else orderOf q.order
    limit := if isCount then none else q.limit.map word
    offset := if isCount || q.offset = 0 then none else some (word q.offset) }

/-- The public id of a row of the table. -/
def idOfRow (entityType : String) : List SqlPiece :=
  [.text "(SELECT m.public_id FROM public_id_mappings m WHERE m.entity_type = ",
    .bind (.text entityType), .text " AND m.entity_row_id = t.id)"]

/-- What is selected. -/
def columns (s : RowSelect) : List SqlPiece :=
  if s.isCount then [.text "COUNT(*)"]
  else .text "t.id, to_jsonb(t) - 'id' AS data, " ::
    (if s.annotated then idOfRow s.entityType else [.text "NULL::uuid"]) ++
    [.text " AS public_id"]

/-- Which rows are selected. -/
def filters (s : RowSelect) : List SqlPiece :=
  (match s.pks with
    | some pks => [.text " AND t.id = ANY(", .bind (.ints pks), .text ")"]
    | none => []) ++
  (match s.publicId with
    | some u => .text " AND " :: idOfRow s.entityType ++ [.text " = ", .bind (.uuid u)]
    | none => [])

/-- A sort key. -/
def keyText (k : SortKey) : String :=
  (match k.field with
    | .pk => "t.id"
    | .publicId => "public_id") ++
  (match k.direction with
    | .asc => " ASC"
    | .desc => " DESC")

/-- The order of the rows. -/
def orderText : List SortKey → String
  | [] => ""
  | ks => " ORDER BY " ++ ", ".intercalate (ks.map keyText)

/-- The page that is cut out. -/
def page (s : RowSelect) : List SqlPiece :=
  (match s.limit with
    | some n => [.text " LIMIT ", .bind (.int n)]
    | none => []) ++
  (match s.offset with
    | some n => [.text " OFFSET ", .bind (.int n)]
    | none => [])

def pieces (s : RowSelect) : List SqlPiece :=
  .text "SELECT " :: s.columns ++
    .text (" FROM " ++ s.table ++ " t WHERE TRUE") :: s.filters ++
    .text (orderText s.order) :: s.page

end RowSelect

end RowIdentity
