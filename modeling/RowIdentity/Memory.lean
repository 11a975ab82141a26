import RowIdentity.Backend
import RowIdentity.Flags
import RowIdentity.Registry

/-!
# The in-memory database

Rows by entity type and key, a counter of keys for each entity type, and the mapping table. A call
is one unit of work: a row and its mapping entry come and go together.

* `Memory` — the stored state; every table ascends by key
* `Moment` — what a call draws from its surroundings: the time and random ids
* `Memory.select` — the rows of a query
* `Memory.answer` — the reply to each call of the backend interface, and the state after it
* `World` — a database with its flags, at some call in a sequence of moments
-/

namespace RowIdentity

/-- What a call draws from its surroundings: the time, and random ids to try in turn. -/
structure Moment where
  now : Instant
  draw : Uuid
  more : List Uuid

/-- The random ids in the order in which they are tried. -/
def Moment.draws (t : Moment) : List Uuid := t.draw :: t.more

/-- The state of an in-memory database. -/
structure Memory where
  tables : List (String × List (Int64 × Row))
  sequences : List (String × Int64)
  mappings : MappingTable

namespace Memory

def empty : Memory := ⟨[], [], .empty⟩

/-- The rows of an entity type in the order of their keys. -/
def table (m : Memory) (entityType : String) : List (Int64 × Row) :=
  (Assoc.get? m.tables entityType).getD []

def row? (m : Memory) (entityType : String) (pk : Int64) : Option Row :=
  Assoc.get? (m.table entityType) pk

/-- The last key of an entity type, or zero. -/
def lastKey (m : Memory) (entityType : String) : Int64 :=
  ((m.table entityType).getLast?.map (·.1)).getD 0

/-- The last key that was counted for an entity type. -/
def sequence (m : Memory) (entityType : String) : Int64 :=
  (Assoc.get? m.sequences entityType).getD 0

/-- The next key: beyond all counted keys and all keys in the table. -/
def nextKey (m : Memory) (entityType : String) : Int64 :=
  max (m.sequence entityType) (m.lastKey entityType) + 1

/-- Files a row under its entity type and key. -/
def putRow (m : Memory) (r : Row) : Memory :=
  { m with tables :=
      Assoc.put m.tables r.entityType (Assoc.putSorted (m.table r.entityType) r.pk r) }

def setSequence (m : Memory) (entityType : String) (pk : Int64) : Memory :=
  { m with sequences := Assoc.put m.sequences entityType pk }

/-! ## Entries -/

/-- The fault of a call whose draws were all taken. -/
def outOfDraws : Fault := .plain "no unused public id was drawn"

/-- The entry of a row, made when missing. -/
def entryOrNew (t : Moment) (m : Memory) (entityType : String) (pk : Int64) :
    Except Fault MappingEntry × Memory :=
  match m.mappings.getOrInsert entityType pk t.now t.draws with
  | some (e, mappings, _) => (.ok e, { m with mappings })
  | none => (.error outOfDraws, m)

def unmap (m : Memory) (entityType : String) (pk : Int64) : Memory :=
  { m with mappings := (m.mappings.remove entityType pk).2 }

/-- Inserts one entry of many and counts it if it went in. -/
def insertEntry (acc : Nat × MappingTable) (e : MappingEntry) : Nat × MappingTable :=
  let (outcome, table) := acc.2.insert e
  (if outcome.isInserted then acc.1 + 1 else acc.1, table)

/-- Inserts entries one after another, less those in conflict. -/
def insertEntries (m : Memory) (es : List MappingEntry) : Nat × Memory :=
  let (n, mappings) := es.foldl insertEntry (0, m.mappings)
  (n, { m with mappings })

/-! ## Rows -/

/-- Whether rows of an entity type get an entry when they are inserted. -/
def tracks (registry : Registry) (entityType : String) : Bool :=
  (registry.get? entityType).any Model.tracksPublicIds

/-- Files a new row and makes its entry, if its model tracks public ids. -/
def insertRow (registry : Registry) (t : Moment) (m : Memory) (r : Row) :
    Except Fault Row × Memory :=
  let filed := m.putRow r
  if tracks registry r.entityType then
    match entryOrNew t filed r.entityType r.pk with
    | (.ok _, m') => (.ok r, m')
    | (.error e, _) => (.error e, m)
  else (.ok r, filed)

def ensureRegistered (registry : Registry) (entityType : String) : Except Fault Unit :=
  match registry.get? entityType with
  | some _ => .ok ()
  | none => .error (.known (.unknownType entityType))

/-- Inserts a row under the next key. -/
def create (registry : Registry) (t : Moment) (m : Memory) (entityType : String) (data : Json) :
    Except Fault Row × Memory :=
  match ensureRegistered registry entityType with
  | .error e => (.error e, m)
  | .ok () =>
    let pk := m.nextKey entityType
    match insertRow registry t (m.setSequence entityType pk) ⟨entityType, pk, data, t.now⟩ with
    | (.ok r, m') => (.ok r, m')
    | (.error e, _) => (.error e, m)

/-- Inserts a row under a given key, which must be free. -/
def createAt (registry : Registry) (t : Moment) (m : Memory) (entityType : String) (pk : Int64)
    (data : Json) : Except Fault Row × Memory :=
  match ensureRegistered registry entityType with
  | .error e => (.error e, m)
  | .ok () =>
    match m.row? entityType pk with
    | some _ => (.error (.plain
        (entityType ++ " with pk " ++ Decimal.text pk.toInt ++ " already exists")), m)
    | none => insertRow registry t m ⟨entityType, pk, data, t.now⟩

/-- Deletes a row with its entry and tells whether it existed. -/
def delete (m : Memory) (entityType : String) (pk : Int64) : Bool × Memory :=
  match m.row? entityType pk with
  | none => (false, m)
  | some _ =>
    let tables := Assoc.put m.tables entityType (Assoc.remove (m.table entityType) pk)
    (true, unmap { m with tables } entityType pk)

/-- Loads rows as they are, without entries; the counter is raised to the last key. -/
def load (now : Instant) (m : Memory) (entityType : String) (rows : List (Int64 × Json)) :
    Nat × Memory :=
  let m := rows.foldl (fun m (pk, data) => m.putRow ⟨entityType, pk, data, now⟩) m
  (rows.length, m.setSequence entityType (max (m.sequence entityType) (m.lastKey entityType)))

/-- Keys in ascending order, greater than `after`, at most `limit`. -/
def keys (m : Memory) (entityType : String) (after : Option Int64) (limit : Nat) : List Int64 :=
  (((m.table entityType).map (·.1)).filter fun pk => after.all (· < pk)).take limit

/-- The keys among the given ones whose rows exist, each once. -/
def existing (m : Memory) (entityType : String) (pks : List Int64) : List Int64 :=
  (pks.filter fun pk => (m.row? entityType pk).isSome).eraseDups

/-! ## Queries -/

/-- The order of public ids, rows without one last. -/
def publicIdLe : Option Uuid → Option Uuid → Bool
  | some u, some v => u.le v
  | some _, none => true
  | none, some _ => false
  | none, none => true

/-- Sorts rows that ascend by key; equals keep their order, and a downward order is the reverse of
the upward one. -/
def sort (order : Option SortKey) (rows : List AnnotatedRow) : List AnnotatedRow :=
  match order with
  | none => rows
  | some ⟨field, direction⟩ =>
    let sorted := match field with
      | .pk => rows.mergeSort fun a b => a.row.pk ≤ b.row.pk
      | .publicId => rows.mergeSort fun a b => publicIdLe a.publicId b.publicId
    match direction with
    | .asc => sorted
    | .desc => sorted.reverse

/-- The rows that pass the filters of a query, in its order; its page is not cut out. Their public
ids are looked up together, ahead of the filter by public id. -/
def select (m : Memory) (q : RowQuery) : List AnnotatedRow :=
  let rows := ((m.table q.entityType).map (·.2)).filter fun r =>
    q.pks.all fun pks => pks.contains r.pk
  let ids := if q.annotated then m.mappings.idsFor q.entityType (rows.map (·.pk)) else []
  let annotated := rows.map fun r => (⟨r, Assoc.get? ids r.pk⟩ : AnnotatedRow)
  sort q.order (annotated.filter fun a => q.publicId.all fun u => a.publicId == some u)

def fetch (m : Memory) (q : RowQuery) : Except Fault (List AnnotatedRow) := do
  q.validate
  let rows := (m.select q).drop q.offset
  return match q.limit with
    | some n => rows.take n
    | none => rows

def countRows (m : Memory) (q : RowQuery) : Except Fault Nat := do
  q.validate
  return (m.select q).length

/-! ## The backend interface -/

/-- The reply to a call, and the state after it. -/
def answer (registry : Registry) (flag : Bool) (t : Moment) :
    (c : BackendCall) → Memory → c.Reply × Memory
  | .row ty pk, m => (.ok (m.row? ty pk), m)
  | .keys ty after limit, m => (.ok (m.keys ty after limit), m)
  | .existing ty pks, m => (.ok (m.existing ty pks), m)
  | .fetch q, m => (m.fetch q, m)
  | .countRows q, m => (m.countRows q, m)
  | .create ty data, m => create registry t m ty data
  | .createAt ty pk data, m => createAt registry t m ty pk data
  | .delete ty pk, m => let (b, m) := m.delete ty pk; (.ok b, m)
  | .entryById id, m => (.ok (m.mappings.entryById? id), m)
  | .entryOf ty pk, m => (.ok (m.mappings.entryOf? ty pk), m)
  | .entryOrNew ty pk, m => entryOrNew t m ty pk
  | .insertEntries es, m => let (n, m) := m.insertEntries es; (.ok n, m)
  | .mapped ty pks, m => (.ok (m.mappings.mapped ty pks), m)
  | .unmap ty pk, m =>
    (.ok (if (m.mappings.remove ty pk).1.isSome then 1 else 0), m.unmap ty pk)
  | .countEntries (some ty), m => (.ok (m.mappings.countFor ty), m)
  | .countEntries none, m => (.ok m.mappings.size, m)
  | .flag, m => (flag, m)
  | .stamp, m => (⟨t.draw, t.now⟩, m)

end Memory

/-- A database with its flags, at the `calls`-th call of a sequence of moments. -/
structure World where
  memory : Memory
  flags : RuntimeFlags
  calls : Nat

namespace World

def empty (flag : Bool) : World := ⟨.empty, .of flag, 0⟩

/-- The reply to a call; each call takes the next moment. -/
def answer (registry : Registry) (moments : Nat → Moment) (c : BackendCall) (w : World) :
    c.Reply × World :=
  let (r, memory) := Memory.answer registry (w.flags.isOn publicIdFlag) (moments w.calls) c w.memory
  (r, { w with memory, calls := w.calls + 1 })

def run (registry : Registry) (moments : Nat → Moment) (a : Action α) (w : World) :
    IdResult α × World :=
  a.run.run (answer registry moments) w

end World

end RowIdentity
