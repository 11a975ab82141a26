import RowIdentity.Registry
import RowIdentity.Sql.Database

/-!
# The backend over SQL

Rows lie in the tables of their models, under a column `id`; entries lie in a table of their own,
which triggers keep in step. Each backend call becomes one statement or a few.

* `SqlStore.reply` — the statements of each call
* `StoreAction.overSql`, `Action.overSql` — an action with its calls replaced by statements
* `ensureSchema`, `installTriggers`, `installAllTriggers` — what the database has to have
-/

namespace RowIdentity

namespace SqlStore

open Sql

/-! ## Decoding rows -/

def readKey : List SqlCell → Except Nat Int64
  | .int n :: _ => .ok n
  | _ => .error 0

/-- A key and the other columns of its row. -/
def readRow : List SqlCell → Except Nat (Int64 × Json)
  | .int n :: .json j :: _ => .ok (n, j)
  | .int _ :: _ => .error 1
  | _ => .error 0

/-- A row with its public id, if it has one. -/
def readAnnotated : List SqlCell → Except Nat (Int64 × Json × Option Uuid)
  | .int n :: .json j :: .uuid u :: _ => .ok (n, j, some u)
  | .int n :: .json j :: .null :: _ => .ok (n, j, none)
  | .int _ :: .json _ :: _ => .error 2
  | .int _ :: _ => .error 1
  | _ => .error 0

def readEntry : List SqlCell → Except Nat MappingEntry
  | .uuid u :: .text ty :: .int n :: .time t :: _ => .ok ⟨u, ty, n, t⟩
  | .uuid _ :: .text _ :: .int _ :: _ => .error 3
  | .uuid _ :: .text _ :: _ => .error 2
  | .uuid _ :: _ => .error 1
  | _ => .error 0

/-- A 64-bit word as a size; a negative one wraps. -/
def size (n : Int64) : Nat := n.toUInt64.toNat

/-! ## Rows -/

/-- The table of a registered model, between its quotes. -/
def table (registry : Registry) (entityType : String) : Except Fault String :=
  match registry.get? entityType with
  | some m => quoteIdentifier m.table
  | none => .error (.plain ("Unknown entity type: " ++ entityType))

def row (registry : Registry) (entityType : String) (pk : Int64) : SqlAction (Option Row) := do
  let table ← table registry entityType
  let purpose := "Failed to get " ++ entityType ++ " " ++ Decimal.text pk.toInt
  match ← fetchOptional purpose readRow (.row table pk) with
  | none => return none
  | some (pk, data) => return some ⟨entityType, pk, data, (← stamp).time⟩

def keys (registry : Registry) (entityType : String) (after : Option Int64) (limit : Nat) :
    SqlAction (List Int64) := do
  let table ← table registry entityType
  fetchAll ("Failed to list primary keys of " ++ entityType) readKey
    (.keys table after (RowSelect.word limit))

def existing (registry : Registry) (entityType : String) (pks : List Int64) :
    SqlAction (List Int64) := do
  let table ← table registry entityType
  let found ← fetchAll ("Failed to check rows of " ++ entityType) readKey (.existing table pks)
  return found.eraseDups

def fetch (registry : Registry) (q : RowQuery) : SqlAction (List AnnotatedRow) := do
  q.validate
  let table ← table registry q.entityType
  let rows ← fetchAll ("Failed to query " ++ q.entityType) readAnnotated
    (.select (.ofQuery table false q))
  rows.mapM fun (pk, data, publicId) => do
    return ⟨⟨q.entityType, pk, data, (← stamp).time⟩, publicId⟩

def countRows (registry : Registry) (q : RowQuery) : SqlAction Nat := do
  q.validate
  let table ← table registry q.entityType
  size <$> fetchOne ("Failed to count " ++ q.entityType) readKey
    (.select (.ofQuery table true q))

/-! ## Entries -/

def entryById (id : Uuid) : SqlAction (Option MappingEntry) :=
  fetchOptional "Failed to get mapping entry" readEntry (.entryById id)

def entryOf (entityType : String) (pk : Int64) : SqlAction (Option MappingEntry) :=
  fetchOptional "Failed to get mapping entry" readEntry (.entryOf entityType pk)

/-- The entry of a row, made when missing. It is read back, since another client may have made it
first. -/
def entryOrNew (entityType : String) (pk : Int64) : SqlAction MappingEntry := do
  if let some e ← entryOf entityType pk then return e
  let s ← stamp
  let _ ← execute "Failed to create mapping entry" (.insertEntry ⟨s.id, entityType, pk, s.time⟩)
  match ← entryOf entityType pk with
  | some e => return e
  | none => throw (.plain
      ("Failed to read back mapping entry for " ++ entityType ++ " " ++ Decimal.text pk.toInt))

/-- Inserts entries in one transaction, less those in conflict; tells how many went in. -/
def insertEntries (es : List MappingEntry) : SqlAction Nat := do
  if es.isEmpty then return 0
  begin "Failed to begin transaction"
  let inserted ← tryCatch (execute "Failed to insert mapping entries" (.insertEntries es))
    fun fault => do
      rollback
      throw fault
  commit "Failed to commit mapping entries"
  return inserted

def mapped (entityType : String) (pks : List Int64) : SqlAction (List Int64) := do
  let found ← fetchAll "Failed to list mapped rows" readKey (.mapped entityType pks)
  return found.eraseDups

def unmap (entityType : String) (pk : Int64) : SqlAction Nat :=
  execute "Failed to delete mapping entry" (.unmap entityType pk)

def countEntries (entityType : Option String) : SqlAction Nat :=
  size <$> fetchOne "Failed to count mapping entries" readKey (.countEntries entityType)

/-! ## The backend interface -/

/-- The fault of a call that this store does not serve. -/
def readOnlyRows : Fault := .plain "rows are written by their own application"

/-- The statements of a backend call. -/
def reply (registry : Registry) : (c : BackendCall) → Program Database c.Reply
  | .row ty pk => (row registry ty pk).run
  | .keys ty after limit => (keys registry ty after limit).run
  | .existing ty pks => (existing registry ty pks).run
  | .fetch q => (fetch registry q).run
  | .countRows q => (countRows registry q).run
  | .create .. => .done (.error readOnlyRows)
  | .createAt .. => .done (.error readOnlyRows)
  | .delete .. => .done (.error readOnlyRows)
  | .entryById id => (entryById id).run
  | .entryOf ty pk => (entryOf ty pk).run
  | .entryOrNew ty pk => (entryOrNew ty pk).run
  | .insertEntries es => (insertEntries es).run
  | .mapped ty pks => (mapped ty pks).run
  | .unmap ty pk => (unmap ty pk).run
  | .countEntries ty => (countEntries ty).run
  | .flag => .call (I := Database) .flag .done
  | .stamp => .call (I := Database) .stamp .done

end SqlStore

def Program.overSql (registry : Registry) (p : Program Backend α) : Program Database α :=
  p.interpret (J := Database) (SqlStore.reply registry)

/-! ## The schema -/

/-- Makes the mapping table and the functions of the triggers, unless they are there. -/
def ensureSchema : SqlAction Unit := do
  let _ ← Sql.execute "Failed to create public_id_mappings table" .createMappings
  let _ ← Sql.execute "Failed to create insert trigger function" .createInsertFunction
  let _ ← Sql.execute "Failed to create delete trigger function" .createDeleteFunction

/-- Puts the triggers on one table. -/
def installTriggers (table entityType : String) : SqlAction Unit := do
  for t in ← triggerStatements table entityType do
    let _ ← Sql.execute ("Failed to install mapping trigger on " ++ table) (.trigger t)

/-- Puts the triggers on the table of each model that tracks public ids and tells how many there
are. -/
def installAllTriggers (registry : Registry) : SqlAction Nat := do
  let tracked := registry.models.filter Model.tracksPublicIds
  tracked.forM fun m => installTriggers m.table m.entityType
  return tracked.length

end RowIdentity
