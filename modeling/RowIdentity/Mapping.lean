import RowIdentity.Assoc
import RowIdentity.Instant
import RowIdentity.Json.Basic
import RowIdentity.Uuid

/-!
# The mapping table

A mapping entry gives a row its public id. A row has at most one entry, and a public id belongs to
at most one row, over all entity types. Entries are made once and never changed.

* `MappingEntry` — an entry
* `MappingTable` — the entries, found by public id and by row
* `MappingTable.insert` — adds an entry unless its row or its public id is taken
* `MappingTable.getOrInsert` — the entry of a row, made with the first free public id when missing
* `MappingTable.remove` — drops the entry of a row
-/

namespace RowIdentity

/-- An entry of the mapping table. -/
structure MappingEntry where
  publicId : Uuid
  entityType : String
  rowKey : Int64
  createdAt : Instant
deriving DecidableEq

/-- What became of an entry that was to be inserted. -/
inductive InsertOutcome where
  | inserted (id : Uuid)
  /-- The row has an entry with this public id. -/
  | alreadyMapped (id : Uuid)
  /-- Another row owns the public id. -/
  | publicIdTaken
deriving DecidableEq

def InsertOutcome.isInserted : InsertOutcome → Bool
  | inserted _ => true
  | _ => false

/-- The entries, indexed both ways. -/
structure MappingTable where
  byId : List (Uuid × MappingEntry)
  byRow : List ((String × Int64) × Uuid)
deriving DecidableEq

namespace MappingTable

def empty : MappingTable := ⟨[], []⟩

def entryById? (t : MappingTable) (id : Uuid) : Option MappingEntry := Assoc.get? t.byId id

def idOf? (t : MappingTable) (entityType : String) (pk : Int64) : Option Uuid :=
  Assoc.get? t.byRow (entityType, pk)

def entryOf? (t : MappingTable) (entityType : String) (pk : Int64) : Option MappingEntry :=
  (t.idOf? entityType pk).bind t.entryById?

/-- Adds an entry unless its row or its public id is taken; the row is looked at first. -/
def insert (t : MappingTable) (e : MappingEntry) : InsertOutcome × MappingTable :=
  match t.idOf? e.entityType e.rowKey with
  | some id => (.alreadyMapped id, t)
  | none =>
    match t.entryById? e.publicId with
    | some _ => (.publicIdTaken, t)
    | none => (.inserted e.publicId,
        ⟨Assoc.put t.byId e.publicId e, Assoc.put t.byRow (e.entityType, e.rowKey) e.publicId⟩)

/-- The entry of a row, with the table and the draws that are left. Draws are tried in turn until
the row has an entry; `none` when they run out before. -/
def getOrInsert (t : MappingTable) (entityType : String) (pk : Int64) (now : Instant) :
    List Uuid → Option (MappingEntry × MappingTable × List Uuid)
  | [] => none
  | draw :: draws =>
    match t.insert ⟨draw, entityType, pk, now⟩ with
    | (.inserted id, t') | (.alreadyMapped id, t') =>
      match t'.entryById? id with
      | some e => some (e, t', draws)
      | none => getOrInsert t entityType pk now draws
    | (.publicIdTaken, _) => getOrInsert t entityType pk now draws

def remove (t : MappingTable) (entityType : String) (pk : Int64) :
    Option MappingEntry × MappingTable :=
  match t.idOf? entityType pk with
  | none => (none, t)
  | some id =>
    (t.entryById? id, ⟨Assoc.remove t.byId id, Assoc.remove t.byRow (entityType, pk)⟩)

/-- The rows among the given ones that have an entry, each once. -/
def mapped (t : MappingTable) (entityType : String) (pks : List Int64) : List Int64 :=
  (pks.filter fun pk => (t.idOf? entityType pk).isSome).eraseDups

/-- The public ids of those among the given rows that have one. -/
def idsFor (t : MappingTable) (entityType : String) (pks : List Int64) : List (Int64 × Uuid) :=
  (t.mapped entityType pks).filterMap fun pk => (t.idOf? entityType pk).map (pk, ·)

def countFor (t : MappingTable) (entityType : String) : Nat :=
  t.byRow.countP (·.1.1 = entityType)

def size (t : MappingTable) : Nat := t.byId.length

end MappingTable

end RowIdentity
