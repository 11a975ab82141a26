import RowIdentity.Backend
import RowIdentity.Registry

/-!
# Backfill

Gives entries to rows that were written before the mapping table was kept. The keys of a model are
paged through in ascending order; each page is one batch, whose missing entries are looked up
afresh and inserted together. A batch that fails is recorded, and the next one follows.

* `BackfillReport` — the outcome for one model
* `backfillBatch` — one batch
* `backfillModel`, `backfillAll`, `backfillRow` — a model, all models, or one row
-/

namespace RowIdentity

/-- The outcome of a backfill of one model. `scanned` counts keys that were visited, `vanished`
rows that were deleted between the scan and the insert; in a dry run, `created` counts the entries
that would be made. -/
structure BackfillReport where
  model : String
  batches : Nat
  scanned : Nat
  created : Nat
  alreadyMapped : Nat
  vanished : Nat
  failures : List BatchFailure
  dryRun : Bool
deriving DecidableEq, Repr

namespace BackfillReport

def start (model : String) (dryRun : Bool) : BackfillReport := ⟨model, 0, 0, 0, 0, 0, [], dryRun⟩

def isComplete (r : BackfillReport) : Bool := r.failures.isEmpty

def totalCreated (rs : List BackfillReport) : Nat := (rs.map (·.created)).foldr (· + ·) 0

end BackfillReport

def BatchFailure.toJson (f : BatchFailure) : Json :=
  .obj [("PartialBatchFailure", .obj [("model", .str f.model), ("first_pk", .int f.firstKey.toInt),
    ("last_pk", .int f.lastKey.toInt), ("row_ids", .arr (f.keys.map fun k => .int k.toInt)),
    ("message", .str f.cause)])]

def BackfillReport.toJson (r : BackfillReport) : Json :=
  .obj [("model", .str r.model), ("batches", .nat r.batches), ("scanned", .nat r.scanned),
    ("created", .nat r.created), ("already_mapped", .nat r.alreadyMapped),
    ("vanished", .nat r.vanished), ("failures", .arr (r.failures.map BatchFailure.toJson)),
    ("dry_run", .bool r.dryRun)]

/-! ## One batch -/

structure BatchOutcome where
  alreadyMapped : Nat
  vanished : Nat
  created : Nat
deriving DecidableEq, Repr

/-- Makes the missing entries of some rows of an entity type that still exist. -/
def backfillBatch (entityType : String) (dryRun : Bool) (pks : List Int64) :
    StoreAction BatchOutcome := do
  let mapped ← Store.mapped entityType pks
  let missing := pks.filter fun pk => !mapped.contains pk
  if missing.isEmpty then return ⟨mapped.length, 0, 0⟩
  let existing ← Store.existing entityType missing
  let survivors := missing.filter existing.contains
  let vanished := missing.length - survivors.length
  if dryRun then return ⟨mapped.length, vanished, survivors.length⟩
  let entries ← survivors.mapM (Store.newEntry entityType)
  let inserted ← Store.insertEntries entries
  return ⟨mapped.length, vanished, inserted⟩

/-! ## Whole models -/

/-- The number of keys there are. A store that lists its keys in ascending order never gives as
many pages. -/
def keySpace : Nat := UInt64.size

/-- Counts a batch of keys with its outcome or its failure. -/
def BackfillReport.record (r : BackfillReport) (first last : Int64) (pks : List Int64) :
    Except Fault BatchOutcome → BackfillReport
  | .ok o => { r with
      batches := r.batches + 1
      scanned := r.scanned + pks.length
      alreadyMapped := r.alreadyMapped + o.alreadyMapped
      vanished := r.vanished + o.vanished
      created := r.created + o.created }
  | .error f => { r with
      batches := r.batches + 1
      scanned := r.scanned + pks.length
      failures := r.failures ++ [⟨r.model, first, last, pks, f.chain⟩] }

/-- Goes on from a key, up to a number of pages; a page that is not full is the last one. -/
def backfillPages (batchSize : Nat) : Nat → Option Int64 → BackfillReport → Action BackfillReport
  | 0, _, _ => throw (.internal "the keys of a model do not end")
  | pages + 1, cursor, report => do
    let pks ← Store.keys report.model cursor batchSize
    match pks.head?, pks.getLast? with
    | some first, some last =>
      let outcome ← ExceptT.lift (backfillBatch report.model report.dryRun pks).run
      let report := report.record first last pks outcome
      if pks.length < batchSize then return report
      else backfillPages batchSize pages (some last) report
    | _, _ => return report

/-- A batch holds at least one row. -/
def checkBatchSize (batchSize : Nat) : IdResult Unit :=
  if batchSize = 0 then .error (.configValue "batch_size" "0" "batch size must be positive")
  else .ok ()

/-- A model must track public ids. -/
def checkEligible (model : Model) : IdResult Unit :=
  if model.tracksPublicIds then .ok () else .error (.notEligible model.entityType)

def backfillModel (dryRun : Bool) (batchSize : Nat) (model : Model) : Action BackfillReport := do
  checkBatchSize batchSize
  checkEligible model
  backfillPages batchSize (keySpace + 1) none (.start model.entityType dryRun)

/-- The models that a filter by app selects among those that track public ids; the label is
compared as it is spelled. -/
def backfillTargets (registry : Registry) (app : Option String) : List Model :=
  registry.models.filter fun m => app.all (· = m.appLabel) && m.tracksPublicIds

/-- Backfills every registered model that tracks public ids, or those of one app. -/
def backfillAll (registry : Registry) (dryRun : Bool) (batchSize : Nat) (app : Option String) :
    Action (List BackfillReport) := do
  checkBatchSize batchSize
  (backfillTargets registry app).mapM (backfillModel dryRun batchSize)

/-! ## One row -/

/-- Makes the entry of one row. The result tells whether an entry was made, or would be in a dry
run; it is not when the row is missing or has one. -/
def backfillRow (registry : Registry) (dryRun : Bool) (app name : String) (pk : Int64) :
    Action Bool := do
  let some model := registry.byNames? app name | throw (.unknownType (app ++ "." ++ name))
  checkEligible model
  if (← Store.row model.entityType pk).isNone then return false
  if (← Store.entryOf model.entityType pk).isSome then return false
  if dryRun then return true
  let entry ← Store.newEntry model.entityType pk
  let inserted ← Store.insertEntries [entry]
  return inserted = 1

end RowIdentity
