import RowIdentity.Query

/-!
# Pages of a list

* `ListParams` — what a client may ask of a list
* `ListParams.pageNumber`, `pageSize` — the page that is shown: the first at least, and between
  one and a hundred rows
* `PageInfo.of` — where a page stands among the others
-/

namespace RowIdentity

/-- The largest size a 64-bit word holds. -/
def maxSize : Nat := UInt64.size - 1

/-- The sum of two sizes, held at the largest one. -/
def addSizes (a b : Nat) : Nat := min (a + b) maxSize

/-- The product of two sizes, held at the largest one. -/
def mulSizes (a b : Nat) : Nat := min (a * b) maxSize

/-- The product of two sizes, unless it is beyond the largest one. -/
def mulSizes? (a b : Nat) : Option Nat := if a * b ≤ maxSize then some (a * b) else none

/-- What a client may ask of a list. -/
structure ListParams where
  page : Nat
  limit : Nat
  sort : Option String
  publicId : Option String
deriving DecidableEq, Repr

namespace ListParams

def default : ListParams := ⟨1, 20, none, none⟩

/-- The page that is shown; pages count from one. -/
def pageNumber (p : ListParams) : Nat := max p.page 1

/-- The number of rows of a page. -/
def pageSize (p : ListParams) : Nat := min (max p.limit 1) 100

def sortKey (p : ListParams) : Option SortKey := p.sort.bind SortKey.parse?

def ofJson? (j : Json) : Option ListParams := do
  let fields ← j.record? ["page", "limit", "sort", "public_id"]
  let page ← Json.withDefault? fields "page" Json.nat? default.page
  let limit ← Json.withDefault? fields "limit" Json.nat? default.limit
  let sort ← Json.withDefault? fields "sort" (Json.optional? Json.str?) none
  let publicId ← Json.withDefault? fields "public_id" (Json.optional? Json.str?) none
  some ⟨page, limit, sort, publicId⟩

end ListParams

/-- Where a page stands among the others. -/
structure PageInfo where
  page : Nat
  limit : Nat
  total : Nat
  totalPages : Nat
  hasNext : Bool
  hasPrev : Bool
deriving DecidableEq, Repr

namespace PageInfo

/-- The page `page` of `total` rows, `limit` to a page; both count as one at least. -/
def of (page limit total : Nat) : PageInfo :=
  let limit := max limit 1
  let page := max page 1
  let start := mulSizes (page - 1) limit
  { page
    limit
    total
    totalPages := if total = 0 then 0 else total / limit + (if total % limit = 0 then 0 else 1)
    hasNext := addSizes start limit < total
    hasPrev := 1 < page }

def toJson (p : PageInfo) : Json :=
  .obj [("page", .nat p.page), ("limit", .nat p.limit), ("total", .nat p.total),
    ("total_pages", .nat p.totalPages), ("has_next", .bool p.hasNext),
    ("has_prev", .bool p.hasPrev)]

end PageInfo

end RowIdentity
