import RowIdentity.Backend
import RowIdentity.ExternalId
import RowIdentity.Registry

/-!
# Between rows and external ids

Each scheme goes four ways: from a row to its id, from an id to a row, from a path segment to a
key, and from a global id to a key or a node. Above them stand the dispatchers, which take an id
of any shape.

* `IdScheme.idOf`, `rowOf`, `keyOf`, `nodeKey`, `nodeOf` — one scheme by itself
* `externalId`, `resolveId`, `globalId` — under the scheme of a row's model
* `resolveLookup` — a path segment of any shape to a key of a model
* `resolveNode`, `keyOfGlobalId` — a global id of any shape to a row or a key

The flag is read anew at each place that asks for it.
-/

namespace RowIdentity

/-! ## Rows and ids under one scheme -/

/-- The id of a row. Under the Public-ID scheme its mapping entry is made when it is missing. -/
def IdScheme.idOf (scheme : IdScheme) (row : Row) : Action ExternalId :=
  match scheme with
  | .legacy => pure (.legacy row.pk)
  | .pk => pure (.pk row.pk)
  | .publicId => do
    let entry ← Store.entryOrNew row.entityType row.pk
    return .publicId entry.publicId

/-- The error of a number that comes without a type. -/
def untypedNumber (id : String) : IdError :=
  .invalidFormat id "numeric identifiers need an expected type"

/-- The row of an id. A number needs a model and a stored row; a public id without an entry, or
with an entry of another model, has no row. -/
def IdScheme.rowOf (scheme : IdScheme) (id : String) (model? : Option Model) :
    Action (Option Row) :=
  match scheme with
  | .legacy | .pk => do
    let some model := model? | throw (untypedNumber id)
    let pk ← parseKey id
    match ← Store.row model.entityType pk with
    | some row => return some row
    | none => throw (.notFound model.entityType (Decimal.text pk.toInt))
  | .publicId => do
    let publicId ← parsePublicId id
    let some entry ← Store.entryById publicId | return none
    if model?.any fun model => entry.entityType ≠ model.entityType then return none
    Store.row entry.entityType entry.rowKey

/-! ## Path segments -/

/-- The key that a path segment stands for. A public id must have an entry, of the expected model
if there is one; under the Legacy scheme a global id of that model's graph type serves as well as
a number. -/
def IdScheme.keyOf (scheme : IdScheme) (id : String) (expected : Option Model) : Action Int64 :=
  match scheme with
  | .legacy =>
    if isNumeric id then parseKey id
    else do
      let (typeName, key) ← decodeGlobalId id
      if let some model := expected then
        if model.graphName? ≠ some typeName then
          throw (.typeMismatch (model.graphName?.getD model.entityType) typeName)
      parseKey key
  | .pk => parseKey id
  | .publicId => do
    let publicId ← parsePublicId id
    let some entry ← Store.entryById publicId
      | throw (.notFound ((expected.map (·.entityType)).getD "public id") publicId.toText)
    if let some model := expected then
      if entry.entityType ≠ model.entityType then
        throw (.typeMismatch model.entityType entry.entityType)
    return entry.rowKey

/-! ## Global ids -/

/-- The name of a model's graph type, which must implement the node interface. -/
def ensureNode (model : Model) : IdResult String :=
  match model.graph with
  | some t => if t.implementsNode then .ok t.name else .error (.typeMismatch nodeInterface t.name)
  | none => .error (.typeMismatch nodeInterface model.entityType)

/-- The type must be the one that is expected, if any is. -/
def ensureExpected (typeName : String) (expected : Option String) : IdResult Unit :=
  match expected with
  | some name => if name = typeName then .ok () else .error (.typeMismatch name typeName)
  | none => .ok ()

/-- The key behind a global id of the scheme's shape. -/
def IdScheme.nodeKey (scheme : IdScheme) (registry : Registry) (id : String)
    (expected : Option String) : Action Int64 :=
  match scheme with
  | .legacy => do
    let (typeName, key) ← decodeGlobalId id
    ensureExpected typeName expected
    parseKey key
  | .pk => parseKey id
  | .publicId => do
    let publicId ← parsePublicId id
    match ← Store.entryById publicId with
    | none =>
      let entityType ← match expected with
        | some name => (·.entityType) <$> registry.graphModel name
        | none => pure nodeInterface
      throw (.notFound entityType publicId.toText)
    | some entry =>
      if expected.isSome then
        let model ← registry.model entry.entityType
        ensureExpected (model.graphName?.getD model.entityType) expected
      return entry.rowKey

/-- The row behind a legacy global id. -/
def legacyNode (registry : Registry) (id : String) (expected : Option String) :
    Action (Option Row) := do
  let (typeName, key) ← decodeGlobalId id
  ensureExpected typeName expected
  let model ← registry.graphModel typeName
  let _ ← ensureNode model
  let pk ← parseKey key
  Store.row model.entityType pk

/-- The row behind a public id. -/
def publicIdNode (registry : Registry) (id : String) (expected : Option String) :
    Action (Option Row) := do
  let publicId ← parsePublicId id
  let some entry ← Store.entryById publicId | return none
  let model ← registry.model entry.entityType
  if !model.isPublicIdEligible then
    throw (.schemaInconsistency entry.entityType IdScheme.publicId.name
      ("public id " ++ publicId.toText ++ " maps to a model without public ids"))
  let typeName ← ensureNode model
  ensureExpected typeName expected
  Store.row entry.entityType entry.rowKey

/-- The row behind a number, which needs an expected type whose model uses numbers. -/
def pkNode (registry : Registry) (id : String) (expected : Option String) :
    Action (Option Row) := do
  let some name := expected | throw (untypedNumber id)
  let model ← registry.graphModel name
  if !model.isPkEligible then throw (.typeMismatch name "a numeric primary key")
  let _ ← ensureNode model
  let pk ← parseKey id
  Store.row model.entityType pk

/-- The row behind a global id of the scheme's shape. -/
def IdScheme.nodeOf (scheme : IdScheme) (registry : Registry) (id : String)
    (expected : Option String) : Action (Option Row) :=
  match scheme with
  | .legacy => legacyNode registry id expected
  | .publicId => publicIdNode registry id expected
  | .pk => pkNode registry id expected

/-- A legacy global id is the last shape to be tried. A canonical UUID that is none of those is
unknown, as long as the flag is on. -/
def legacyNodeAtLast (registry : Registry) (id : String) (expected : Option String) :
    Action (Option Row) :=
  tryCatch (legacyNode registry id expected) fun e => do
    match e with
    | .invalidFormat .. =>
      if isCanonicalV4 id then
        if ← publicIdEnabled then return none
      throw e
    | _ => throw e

/-- The row behind a global id that is no public id with a row. -/
def resolveOtherNode (registry : Registry) (id : String) (expected : Option String) :
    Action (Option Row) :=
  if isNumeric id then pkNode registry id expected else legacyNodeAtLast registry id expected

/-- The row behind a global id of any shape: a canonical UUID while the flag is on, a number, or
a legacy global id. -/
def resolveNode (registry : Registry) (id : String) (expected : Option String) :
    Action (Option Row) := do
  if isCanonicalV4 id then
    if ← publicIdEnabled then
      if let some row ← publicIdNode registry id expected then return some row
  resolveOtherNode registry id expected

/-- The key behind a global id of any shape. -/
def keyOfGlobalId (registry : Registry) (id : String) (expected : Option String) :
    Action Int64 := do
  let isPublic ← if isCanonicalV4 id then publicIdEnabled else pure false
  let scheme : IdScheme :=
    if isPublic then .publicId else if isNumeric id then .pk else .legacy
  scheme.nodeKey registry id expected

/-! ## Under the scheme of a model -/

/-- The scheme of a model under the flag as it is now. -/
def currentScheme (model : Model) : Action IdScheme := do return model.scheme (← publicIdEnabled)

/-- The id of a row under the scheme of its model. -/
def externalId (registry : Registry) (row : Row) : Action ExternalId := do
  let model ← registry.model row.entityType
  let scheme ← currentScheme model
  scheme.idOf row

/-- The row of an id under the scheme of its model. -/
def resolveId (id : String) (model : Model) : Action (Option Row) := do
  let scheme ← currentScheme model
  scheme.rowOf id (some model)

/-- The global id of a row under the scheme of its model. -/
def globalId (registry : Registry) (row : Row) : Action String := do
  let model ← registry.model row.entityType
  let some typeName := model.graphName?
    | throw (.unknownType ("GraphQL type for " ++ model.entityType))
  let scheme ← currentScheme model
  let id ← scheme.idOf row
  return scheme.globalId typeName id

/-- The key of a model's row from a path segment of any shape: a canonical UUID while the flag is
on; a number, unless the model shows public ids; else a legacy global id, whatever the scheme. -/
def resolveLookup (model : Model) (raw : String) : Action Int64 := do
  let scheme ← currentScheme model
  let isPublic ← if isCanonicalV4 raw then publicIdEnabled else pure false
  if isPublic then IdScheme.publicId.keyOf raw (some model)
  else if isNumeric raw then
    if scheme = .publicId then throw (.typeMismatch model.entityType "a numeric primary key")
    else scheme.keyOf raw (some model)
  else IdScheme.legacy.keyOf raw (some model)

/-- Asks a query for the public ids where the scheme of the model shows them. -/
def annotateQuery (model : Model) (q : RowQuery) : Action RowQuery := do
  let scheme ← currentScheme model
  return scheme.annotate q

end RowIdentity
