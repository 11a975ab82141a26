import RowIdentity.Http.Message
import RowIdentity.Page
import RowIdentity.Resolution

/-!
# Handlers of the row collections

Rows are addressed by external ids of any shape; which scheme applies is decided by the resolution,
and the handlers see keys only.

* `RowView` — a row as it is shown to clients
* `listRows`, `getRow`, `createRow`, `deleteRow` — the handlers
* `ListParams.ofPairs?` — reads the parameters of a list from a query string
-/

namespace RowIdentity

/-- A row as it is shown to clients, under its external id. -/
structure RowView where
  id : ExternalId
  row : Row

def RowView.toJson (v : RowView) : Json :=
  .obj [("id", v.id.toJson), ("pk", .int v.row.pk.toInt), ("type", .str v.row.entityType),
    ("data", v.row.data), ("created_at", .str v.row.createdAt.text)]

structure RowPage where
  rows : List RowView
  info : PageInfo

def RowPage.toJson (p : RowPage) : Json :=
  .obj [("data", .arr (p.rows.map RowView.toJson)), ("pagination", p.info.toJson)]

def collection (registry : Registry) (plural : String) : IdResult Model :=
  match registry.byPlural? plural with
  | some m => .ok m
  | none => .error (.notFound "resource" plural)

/-- The id of a row of a query: the one the query found, else that of the row. -/
def listedId (registry : Registry) (a : AnnotatedRow) : Action ExternalId :=
  match a.publicId with
  | some u => pure (.publicId u)
  | none => externalId registry a.row

/-- The query of a list, still without a page. -/
def listQuery (model : Model) (params : ListParams) : Action RowQuery := do
  let q ← annotateQuery model (.all model.entityType)
  let publicId ← match params.publicId with
    | some raw => some <$> parsePublicId raw
    | none => pure none
  let q := { q with publicId, order := params.sortKey }
  if q.isValid then return q
  else throw (.invalidFormat ((params.publicId <|> params.sort).getD "") q.complaint)

/-- The rows of a page; pages past the end are empty, whatever their number. -/
def pageRows (q : RowQuery) (page limit total : Nat) : Action (List AnnotatedRow) :=
  match mulSizes? (page - 1) limit with
  | some offset =>
    if offset < total then Store.fetch { q with offset, limit := some limit } else pure []
  | none => pure []

/-- Lists the rows of a collection. -/
def listRows (registry : Registry) (plural : String) (params : ListParams) : Action RowPage := do
  let model ← collection registry plural
  let q ← listQuery model params
  let page := params.pageNumber
  let limit := params.pageSize
  let total ← Store.countRows q
  let found ← pageRows q page limit total
  let rows ← found.mapM fun a => do return ⟨← listedId registry a, a.row⟩
  return ⟨rows, .of page limit total⟩

def getRow (registry : Registry) (plural raw : String) : Action RowView := do
  let model ← collection registry plural
  let pk ← resolveLookup model raw
  let some row ← Store.row model.entityType pk | throw (.notFound model.entityType raw)
  return ⟨← externalId registry row, row⟩

def createRow (registry : Registry) (plural : String) (data : Json) : Action RowView := do
  let model ← collection registry plural
  let row ← Store.create model.entityType data
  return ⟨← externalId registry row, row⟩

def deleteRow (registry : Registry) (plural raw : String) : Action Unit := do
  let model ← collection registry plural
  let pk ← resolveLookup model raw
  if !(← Store.delete model.entityType pk) then throw (.notFound model.entityType raw)

/-! ## Parameters of a list -/

/-- A size in a query string. -/
def size? (s : String) : Option Nat := Decimal.natBelow? UInt64.size s.toList

def valuesOf (pairs : List (String × String)) (name : String) : List String :=
  (pairs.filter (·.1 = name)).map (·.2)

/-- The parameters of a list. Each may be given once; sizes must be numbers; unknown ones are
passed over. -/
def ListParams.ofPairs? (pairs : List (String × String)) : Option ListParams :=
  let size (name : String) (default : Nat) : Option Nat :=
    match valuesOf pairs name with
    | [] => some default
    | [v] => size? v
    | _ => none
  let text (name : String) : Option (Option String) :=
    match valuesOf pairs name with
    | [] => some none
    | [v] => some (some v)
    | _ => none
  do
    let page ← size "page" default.page
    let limit ← size "limit" default.limit
    some ⟨page, limit, ← text "sort", ← text "public_id"⟩

end RowIdentity
