import RowIdentity.Error
import RowIdentity.Row

/-!
# Row queries

* `RowQuery` — which rows of an entity type, in which order, and whether with their public ids
* `RowQuery.validate` — a query that filters or sorts by the public id must ask for it
* `SortKey.parse?` — reads a sort expression such as `public_id:desc`
-/

namespace RowIdentity

/-- What rows can be sorted by. -/
inductive SortField where
  | pk
  | publicId
deriving DecidableEq, Repr

inductive SortDirection where
  | asc
  | desc
deriving DecidableEq, Repr

structure SortKey where
  field : SortField
  direction : SortDirection
deriving DecidableEq, Repr

/-- A query over the rows of one entity type. Filters apply first, then the order, then `offset`
and `limit`. -/
structure RowQuery where
  entityType : String
  pks : Option (List Int64)
  publicId : Option Uuid
  order : Option SortKey
  offset : Nat
  limit : Option Nat
  annotated : Bool
deriving DecidableEq

namespace RowQuery

/-- All rows of an entity type in the order of their keys. -/
def all (entityType : String) : RowQuery := ⟨entityType, none, none, none, 0, none, false⟩

def annotate (q : RowQuery) : RowQuery := { q with annotated := true }

/-- Whether a filter or the order reads the public id. -/
def referencesPublicId (q : RowQuery) : Bool :=
  q.publicId.isSome || q.order.any (·.field == .publicId)

/-- Whether the query asks for the public ids it reads. -/
def isValid (q : RowQuery) : Bool := !q.referencesPublicId || q.annotated

def complaint (q : RowQuery) : String :=
  "query on " ++ q.entityType ++ " references public_id without the public id annotation"

def validate (q : RowQuery) : Except Fault Unit :=
  if q.isValid then .ok () else .error (.plain q.complaint)

end RowQuery

/-- Splits a text at the first occurrence of a character. -/
def splitOnce (c : Char) (cs : List Char) : Option (List Char × List Char) :=
  if cs.contains c then some (cs.takeWhile (· ≠ c), (cs.dropWhile (· ≠ c)).tail) else none

/-- Reads a field and, behind a colon, a direction; a direction other than `desc` in any ASCII
case is upwards. -/
def SortKey.parse? (s : String) : Option SortKey :=
  let (field, direction) := (splitOnce ':' s.toList).getD (s.toList, "asc".toList)
  let direction : SortDirection :=
    if direction.map Char.toLower = "desc".toList then .desc else .asc
  if field = "pk".toList || field = "id".toList then some ⟨.pk, direction⟩
  else if field = "public_id".toList then some ⟨.publicId, direction⟩
  else none

end RowIdentity
