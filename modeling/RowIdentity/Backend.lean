import RowIdentity.Mapping
import RowIdentity.Program
import RowIdentity.Query

/-!
# The backend interface

Everything a request handler or a job asks of its surroundings is one of these calls: the rows,
the mapping entries, the public id flag, and a fresh id with the time.

* `BackendCall`, `BackendCall.Reply` — the calls and their replies
* `StoreAction` — programs over the backend that may end in a fault of the store
* `Action` — programs over the backend that may end in an error; a fault becomes its error
* `Store` — the calls as actions
-/

namespace RowIdentity

/-- A fresh random id and the time at which it was drawn. -/
structure Stamp where
  id : Uuid
  time : Instant
deriving DecidableEq

/-- A call on the backend. -/
inductive BackendCall where
  /-- The row under a key. -/
  | row (entityType : String) (pk : Int64)
  /-- Keys in ascending order, greater than `after`, at most `limit`. -/
  | keys (entityType : String) (after : Option Int64) (limit : Nat)
  /-- The keys among the given ones whose rows exist. -/
  | existing (entityType : String) (pks : List Int64)
  /-- The rows of a query. -/
  | fetch (query : RowQuery)
  /-- The number of rows that pass the filters of a query. -/
  | countRows (query : RowQuery)
  /-- Inserts a row under the next key. -/
  | create (entityType : String) (data : Json)
  /-- Inserts a row under a given key. -/
  | createAt (entityType : String) (pk : Int64) (data : Json)
  /-- Deletes a row and tells whether it existed. -/
  | delete (entityType : String) (pk : Int64)
  /-- The entry that owns a public id. -/
  | entryById (id : Uuid)
  /-- The entry of a row. -/
  | entryOf (entityType : String) (pk : Int64)
  /-- The entry of a row, made when missing. -/
  | entryOrNew (entityType : String) (pk : Int64)
  /-- Inserts entries in one unit of work, less those in conflict; tells how many went in. -/
  | insertEntries (entries : List MappingEntry)
  /-- The keys among the given ones whose rows have an entry. -/
  | mapped (entityType : String) (pks : List Int64)
  /-- Drops the entry of a row and tells how many were dropped. -/
  | unmap (entityType : String) (pk : Int64)
  /-- The number of entries, of one entity type or of all. -/
  | countEntries (entityType : Option String)
  /-- The value of the public id flag. -/
  | flag
  /-- A fresh id and the time. -/
  | stamp

/-- The reply to a call; any call on the store may fail. -/
def BackendCall.Reply : BackendCall → Type
  | row .. => Except Fault (Option Row)
  | keys .. => Except Fault (List Int64)
  | existing .. => Except Fault (List Int64)
  | fetch .. => Except Fault (List AnnotatedRow)
  | countRows .. => Except Fault Nat
  | create .. => Except Fault Row
  | createAt .. => Except Fault Row
  | delete .. => Except Fault Bool
  | entryById .. => Except Fault (Option MappingEntry)
  | entryOf .. => Except Fault (Option MappingEntry)
  | entryOrNew .. => Except Fault MappingEntry
  | insertEntries .. => Except Fault Nat
  | mapped .. => Except Fault (List Int64)
  | unmap .. => Except Fault Nat
  | countEntries .. => Except Fault Nat
  | flag => Bool
  | stamp => Stamp

def Backend : Interface := ⟨BackendCall, BackendCall.Reply⟩

/-- Programs over the backend that may end in a fault of the store. -/
abbrev StoreAction := ExceptT Fault (Program Backend)

/-- Programs over the backend that may end in an error. -/
abbrev Action := ExceptT IdError (Program Backend)

/-- A fault of the store ends an action with the error it comes down to. -/
def StoreAction.toAction (a : StoreAction α) : Action α :=
  ExceptT.mk (a.run.bind fun r => .done (r.mapError Fault.toError))

instance : MonadLift StoreAction Action := ⟨StoreAction.toAction⟩

/-- A result that is known without a call. -/
def Action.ofResult (r : IdResult α) : Action α := ExceptT.mk (.done r)

instance : MonadLift IdResult Action := ⟨Action.ofResult⟩

namespace Store

def ask (c : BackendCall) : Program Backend c.Reply := .call (I := Backend) c .done

def row (entityType : String) (pk : Int64) : StoreAction (Option Row) :=
  ExceptT.mk (ask (.row entityType pk))

/-- Keys in ascending order, greater than `after`, at most `limit`. -/
def keys (entityType : String) (after : Option Int64) (limit : Nat) : StoreAction (List Int64) :=
  ExceptT.mk (ask (.keys entityType after limit))

def existing (entityType : String) (pks : List Int64) : StoreAction (List Int64) :=
  ExceptT.mk (ask (.existing entityType pks))

def fetch (q : RowQuery) : StoreAction (List AnnotatedRow) := ExceptT.mk (ask (.fetch q))

def countRows (q : RowQuery) : StoreAction Nat := ExceptT.mk (ask (.countRows q))

def create (entityType : String) (data : Json) : StoreAction Row :=
  ExceptT.mk (ask (.create entityType data))

def createAt (entityType : String) (pk : Int64) (data : Json) : StoreAction Row :=
  ExceptT.mk (ask (.createAt entityType pk data))

def delete (entityType : String) (pk : Int64) : StoreAction Bool :=
  ExceptT.mk (ask (.delete entityType pk))

def entryById (id : Uuid) : StoreAction (Option MappingEntry) := ExceptT.mk (ask (.entryById id))

def entryOf (entityType : String) (pk : Int64) : StoreAction (Option MappingEntry) :=
  ExceptT.mk (ask (.entryOf entityType pk))

/-- The entry of a row, made when missing. -/
def entryOrNew (entityType : String) (pk : Int64) : StoreAction MappingEntry :=
  ExceptT.mk (ask (.entryOrNew entityType pk))

/-- Inserts entries in one unit of work, less those in conflict; tells how many went in. -/
def insertEntries (entries : List MappingEntry) : StoreAction Nat :=
  ExceptT.mk (ask (.insertEntries entries))

def mapped (entityType : String) (pks : List Int64) : StoreAction (List Int64) :=
  ExceptT.mk (ask (.mapped entityType pks))

def unmap (entityType : String) (pk : Int64) : StoreAction Nat :=
  ExceptT.mk (ask (.unmap entityType pk))

def countEntries (entityType : Option String) : StoreAction Nat :=
  ExceptT.mk (ask (.countEntries entityType))

def newEntry (entityType : String) (pk : Int64) : StoreAction MappingEntry :=
  ExceptT.mk (.call (I := Backend) .stamp fun (s : Stamp) =>
    .done (.ok ⟨s.id, entityType, pk, s.time⟩))

end Store

/-- The value of the public id flag at this moment. -/
def publicIdEnabled : Action Bool :=
  ExceptT.mk (.call (I := Backend) .flag fun (b : Bool) => .done (.ok b))

end RowIdentity
