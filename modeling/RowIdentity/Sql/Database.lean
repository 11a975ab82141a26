import RowIdentity.Backend
import RowIdentity.Sql.Select
import RowIdentity.Sql.Trigger

/-!
# The SQL database

* `Statement` — every statement that is sent; `Statement.text` and `values` say how
* `SqlCall`, `Database` — the calls of a connection
* `SqlAction` — programs over a connection that may end in a fault
* `Sql.fetchAll`, `fetchOptional`, `fetchOne`, `execute` — running a statement
-/

namespace RowIdentity

/-- A statement. Tables are named between their quotes. -/
inductive Statement where
  | createMappings
  | createInsertFunction
  | createDeleteFunction
  | trigger (t : TriggerStatement)
  | row (table : String) (pk : Int64)
  | keys (table : String) (after : Option Int64) (limit : Int64)
  | existing (table : String) (pks : List Int64)
  | select (s : RowSelect)
  | entryById (id : Uuid)
  | entryOf (entityType : String) (pk : Int64)
  | insertEntry (e : MappingEntry)
  | insertEntries (es : List MappingEntry)
  | mapped (entityType : String) (pks : List Int64)
  | unmap (entityType : String) (pk : Int64)
  | countEntries (entityType : Option String)
deriving DecidableEq

namespace Statement

/-- The head of a select of mapping entries. -/
def selectEntry : String :=
  "SELECT public_id, entity_type, entity_row_id, created_at FROM public_id_mappings WHERE "

/-- The head of an insert of mapping entries. -/
def insertInto : String :=
  "INSERT INTO public_id_mappings (public_id, entity_type, entity_row_id, created_at) "

/-- The text of a statement. -/
def text : Statement → String
  | createMappings =>
    "CREATE TABLE IF NOT EXISTS public_id_mappings ( public_id UUID PRIMARY KEY, " ++
      "entity_type VARCHAR(255) NOT NULL, entity_row_id BIGINT NOT NULL, " ++
      "created_at TIMESTAMPTZ NOT NULL DEFAULT now(), " ++
      "CONSTRAINT public_id_mappings_row_key UNIQUE (entity_type, entity_row_id) )"
  | createInsertFunction =>
    "CREATE OR REPLACE FUNCTION public_id_mapping_after_insert() RETURNS trigger AS $$ BEGIN " ++
      "INSERT INTO public_id_mappings (public_id, entity_type, entity_row_id) " ++
      "VALUES (gen_random_uuid(), TG_ARGV[0], NEW.id) ON CONFLICT DO NOTHING; " ++
      "RETURN NEW; END; $$ LANGUAGE plpgsql"
  | createDeleteFunction =>
    "CREATE OR REPLACE FUNCTION public_id_mapping_after_delete() RETURNS trigger AS $$ BEGIN " ++
      "DELETE FROM public_id_mappings " ++
      "WHERE entity_type = TG_ARGV[0] AND entity_row_id = OLD.id; " ++
      "RETURN OLD; END; $$ LANGUAGE plpgsql"
  | trigger t => t.text
  | row table _ => "SELECT t.id, to_jsonb(t) - 'id' FROM " ++ table ++ " t WHERE t.id = $1"
  | keys table .. =>
    "SELECT id FROM " ++ table ++
      " WHERE ($1::BIGINT IS NULL OR id > $1) ORDER BY id ASC LIMIT $2"
  | existing table _ => "SELECT id FROM " ++ table ++ " WHERE id = ANY($1)"
  | select s => SqlPiece.render s.pieces
  | entryById _ => selectEntry ++ "public_id = $1"
  | entryOf .. => selectEntry ++ "entity_type = $1 AND entity_row_id = $2"
  | insertEntry _ => insertInto ++ "VALUES ($1, $2, $3, $4) ON CONFLICT DO NOTHING"
  | insertEntries _ =>
    insertInto ++ "SELECT * FROM UNNEST($1::UUID[], $2::VARCHAR[], $3::BIGINT[], " ++
      "$4::TIMESTAMPTZ[]) ON CONFLICT DO NOTHING"
  | mapped .. =>
    "SELECT entity_row_id FROM public_id_mappings " ++
      "WHERE entity_type = $1 AND entity_row_id = ANY($2)"
  | unmap .. => "DELETE FROM public_id_mappings WHERE entity_type = $1 AND entity_row_id = $2"
  | countEntries _ =>
    "SELECT COUNT(*) FROM public_id_mappings WHERE ($1::VARCHAR IS NULL OR entity_type = $1)"

/-- The bound values of a statement in the order of their places. -/
def values : Statement → List SqlValue
  | createMappings | createInsertFunction | createDeleteFunction | trigger _ => []
  | row _ pk => [.int pk]
  | keys _ after limit => [(after.map .int).getD .null, .int limit]
  | existing _ pks => [.ints pks]
  | select s => SqlPiece.values s.pieces
  | entryById id => [.uuid id]
  | entryOf entityType pk => [.text entityType, .int pk]
  | insertEntry e => [.uuid e.publicId, .text e.entityType, .int e.rowKey, .time e.createdAt]
  | insertEntries es =>
    [.uuids (es.map (·.publicId)), .texts (es.map (·.entityType)), .ints (es.map (·.rowKey)),
      .times (es.map (·.createdAt))]
  | mapped entityType pks => [.text entityType, .ints pks]
  | unmap entityType pk => [.text entityType, .int pk]
  | countEntries entityType => [(entityType.map .text).getD .null]

end Statement

/-! ## Replies -/

/-- A value of a row that the server sends. -/
inductive SqlCell where
  | null
  | int (n : Int64)
  | text (s : String)
  | json (j : Json)
  | uuid (u : Uuid)
  | time (t : Instant)

/-- What the server makes of a statement: its rows, and how many it changed. -/
structure SqlResult where
  affected : Nat
  rows : List (List SqlCell)

/-- A call on a connection. -/
inductive SqlCall where
  | connect (url : String)
  | begin
  | commit
  | rollback
  | run (s : Statement)
  /-- The value of the public id flag. -/
  | flag
  /-- A fresh id and the time. -/
  | stamp

/-- The reply to a call. A connection may fail, and the server may refuse a statement in words of
its own. -/
def SqlCall.Reply : SqlCall → Type
  | connect _ => Except String Unit
  | begin => Except String Unit
  | commit => Except String Unit
  | rollback => Unit
  | run _ => Except String SqlResult
  | flag => Bool
  | stamp => Stamp

def Database : Interface := ⟨SqlCall, SqlCall.Reply⟩

/-- Programs over a connection that may end in a fault. -/
abbrev SqlAction := ExceptT Fault (Program Database)

namespace Sql

/-- A fault of a statement, under what was to be done. -/
def failed (purpose text : String) : Fault := .plain (purpose ++ ": " ++ text)

/-- A refusal of the server. -/
def refused (purpose text : String) : Fault :=
  failed purpose ("error returned from database: " ++ text)

/-- Whether an address begins with a scheme: a letter, then letters, digits and `+`, `-`, `.` up to
a colon. Blanks and control characters in front do not count. -/
def hasScheme (url : String) : Bool :=
  let name := url.toList.dropWhile fun c => c.toNat ≤ 0x20
  let rest := name.dropWhile fun c => c.isAlphanum || c == '+' || c == '-' || c == '.'
  (name.head?.map Char.isAlpha).getD false && rest.head? == some ':'

/-- The fault of an address without a scheme. -/
def noScheme : Fault :=
  .within "error with configuration: relative URL without a base"
    (.plain "relative URL without a base")

def connect (url : String) : SqlAction Unit :=
  if hasScheme url then
    ExceptT.mk (.call (I := Database) (.connect url) fun (r : Except String Unit) =>
      .done (r.mapError Fault.plain))
  else throw noScheme

def begin (purpose : String) : SqlAction Unit :=
  ExceptT.mk (.call (I := Database) .begin fun (r : Except String Unit) =>
    .done (r.mapError (refused purpose)))

def commit (purpose : String) : SqlAction Unit :=
  ExceptT.mk (.call (I := Database) .commit fun (r : Except String Unit) =>
    .done (r.mapError (refused purpose)))

def rollback : Program Database Unit := .call (I := Database) .rollback fun (u : Unit) => .done u

def run (purpose : String) (s : Statement) : SqlAction SqlResult :=
  ExceptT.mk (.call (I := Database) (.run s) fun (r : Except String SqlResult) =>
    .done (r.mapError (refused purpose)))

def stamp : SqlAction Stamp :=
  ExceptT.mk (.call (I := Database) .stamp fun (s : Stamp) => .done (.ok s))

/-- Runs a statement and tells how many rows it changed. -/
def execute (purpose : String) (s : Statement) : SqlAction Nat := do
  return (← run purpose s).affected

/-- Decodes a row; a decoder gives the number of the column that it cannot read. -/
def decode (purpose : String) (read : List SqlCell → Except Nat α) (row : List SqlCell) :
    SqlAction α :=
  match read row with
  | .ok a => return a
  | .error column => throw (failed purpose
      ("error occurred while decoding column " ++ Decimal.text column))

def fetchAll (purpose : String) (read : List SqlCell → Except Nat α) (s : Statement) :
    SqlAction (List α) := do
  (← run purpose s).rows.mapM (decode purpose read)

/-- The first row of a statement, if it has one. -/
def fetchOptional (purpose : String) (read : List SqlCell → Except Nat α) (s : Statement) :
    SqlAction (Option α) := do
  match (← run purpose s).rows with
  | [] => return none
  | row :: _ => some <$> decode purpose read row

/-- The first row of a statement that always has one. -/
def fetchOne (purpose : String) (read : List SqlCell → Except Nat α) (s : Statement) :
    SqlAction α := do
  match ← fetchOptional purpose read s with
  | some a => return a
  | none => throw (failed purpose
      "no rows returned by a query that expected to return at least one row")

end Sql

end RowIdentity
