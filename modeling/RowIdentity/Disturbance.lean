import RowIdentity.Memory

/-!
# A disturbed database

A database as a job may find it: some of its calls fail, keys are listed whose rows are gone, and
others make entries at the same time.

* `Disturbance` — which calls fail, which keys are listed besides, and whose entries are stolen
* `Disturbed` — a database with the number of calls of each kind so far
* `Disturbed.answer` — the reply to each call under a disturbance
-/

namespace RowIdentity

/-- The kinds of calls that may fail. -/
inductive CallKind where
  | keys
  | row
  | existing
  | mapped
  | entryOf
  | insertEntries
deriving DecidableEq, Repr

def CallKind.name : CallKind → String
  | keys => "list_pks"
  | row => "get"
  | existing => "existing_pks"
  | mapped => "mapped_row_ids"
  | entryOf => "get_for_row"
  | insertEntries => "bulk_insert"

def CallKind.all : List CallKind := [keys, row, existing, mapped, entryOf, insertEntries]

def BackendCall.kind? : BackendCall → Option CallKind
  | .keys .. => some .keys
  | .row .. => some .row
  | .existing .. => some .existing
  | .mapped .. => some .mapped
  | .entryOf .. => some .entryOf
  | .insertEntries .. => some .insertEntries
  | _ => none

/-- What disturbs a database. -/
structure Disturbance where
  /-- The calls that fail: a kind, and which of its calls, counted from zero. -/
  failures : List (CallKind × Nat)
  /-- Keys that are listed whether there is a row or not. -/
  phantoms : List Int64
  /-- Rows that get an entry from elsewhere just before theirs is inserted. -/
  steal : List Int64

def Disturbance.none : Disturbance := ⟨[], [], []⟩

/-- The fault of a call that fails. -/
def lostConnection (kind : CallKind) : Fault :=
  .within (kind.name ++ " failed") (.plain "connection reset")

/-- A call that fails, as a reply. -/
def BackendCall.failed (fault : Fault) : (c : BackendCall) → Option c.Reply
  | .row .. => some (.error fault)
  | .keys .. => some (.error fault)
  | .existing .. => some (.error fault)
  | .mapped .. => some (.error fault)
  | .entryOf .. => some (.error fault)
  | .insertEntries .. => some (.error fault)
  | _ => none

/-- A database under a disturbance, with the kinds of the calls so far. -/
structure Disturbed where
  world : World
  seen : List CallKind

namespace Disturbed

variable (registry : Registry) (moments : Nat → Moment) (d : Disturbance)

/-- Makes the entry of a row from elsewhere. -/
def stealEntry (w : World) (e : MappingEntry) : World :=
  if d.steal.contains e.rowKey then
    (w.answer registry moments (.entryOrNew e.entityType e.rowKey)).2
  else w

/-- The reply of the database, with what others do besides. -/
def beside (c : BackendCall) (w : World) : c.Reply × World :=
  match c with
  | .keys ty after limit =>
    match w.answer registry moments (.keys ty after limit) with
    | (.ok pks, w) =>
      let more := d.phantoms.filter fun pk => after.all (· < pk)
      (.ok (((pks ++ more).mergeSort fun a b => a ≤ b).take limit), w)
    | (.error f, w) => (.error f, w)
  | .insertEntries es =>
    (es.foldl (stealEntry registry moments d) w).answer registry moments (.insertEntries es)
  | c => w.answer registry moments c

/-- The reply to a call: its fault, if it is due to fail, else the reply of the database. -/
def answer (c : BackendCall) (s : Disturbed) : c.Reply × Disturbed :=
  let due := c.kind?.filter fun kind => d.failures.contains (kind, s.seen.count kind)
  let seen := c.kind?.toList ++ s.seen
  match due.bind fun kind => c.failed (lostConnection kind) with
  | some reply => (reply, { s with seen })
  | none =>
    let (reply, world) := beside registry moments d c s.world
    (reply, ⟨world, seen⟩)

def run (a : Action α) (w : World) : IdResult α × World :=
  let (r, s) := a.run.run (answer registry moments d) ⟨w, []⟩
  (r, s.world)

end Disturbed

end RowIdentity
