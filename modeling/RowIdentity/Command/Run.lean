import RowIdentity.Backfill
import RowIdentity.Command.Arguments
import RowIdentity.Command.Log
import RowIdentity.Command.Usage
import RowIdentity.Settings.Document
import RowIdentity.Sql.Store

/-!
# The backfill command

Reads the settings, makes the mapping table, and backfills what its arguments select: one row, one
model, or all models of an app or of all apps.

* `Surroundings` — the environment and the files of a run
* `Outcome` — the exit code, the reports and the log lines of a run
* `run` — a run as a program over a database connection
-/

namespace RowIdentity.Command

/-- What a run finds around it. -/
structure Surroundings where
  env : String → Option String
  file : String → SettingsFile

/-- How a run ends. -/
structure Outcome where
  code : Nat
  reports : List BackfillReport
  log : List LogLine

namespace Outcome

/-- A run that ends at its arguments. -/
def silent (code : Nat) : Outcome := ⟨code, [], []⟩

def failure (f : Fault) : Outcome := ⟨1, [], [⟨.error, f.chain, []⟩]⟩

def filtered (o : Outcome) (f : LogFilter) : Outcome :=
  { o with log := o.log.filter fun l => f.shows commandName l.level }

end Outcome

/-- A result whose error ends a run. -/
def ofResult (r : IdResult α) : SqlAction α := ExceptT.mk (.done (r.mapError Fault.known))

/-- A backend action over the connection; its error ends a run. -/
def overSql (registry : Registry) (a : Action α) : SqlAction α :=
  ExceptT.mk ((a.run.overSql registry).bind fun r => .done (r.mapError Fault.known))

/-- What a run backfills. -/
inductive Selection where
  | row (app model : String) (pk : Int64)
  | model (app model : String)
  | models (app : Option String)
deriving DecidableEq, Repr

def Arguments.selection (a : Arguments) : Selection :=
  match a.app, a.model, a.pk with
  | some app, some model, some pk => .row app model pk
  | some app, some model, none => .model app model
  | app, _, _ => .models app

/-- The settings of a run, with the flag from the environment. -/
def settings (s : Surroundings) (a : Arguments) : IdResult Settings := do
  (← Settings.ofFile a.config (s.file a.config)).overridden (s.env publicIdFlag)

/-- The outcome of a run over models: 2 if some batch failed. -/
def finished (dryRun : Bool) (reports : List BackfillReport) : Outcome :=
  { code := if reports.all BackfillReport.isComplete then 0 else 2
    reports
    log := [⟨.info, "backfill complete", [("models", .int reports.length),
      ("created", .int (BackfillReport.totalCreated reports)), ("dry_run", .bool dryRun)]⟩] }

def backfill (registry : Registry) (dryRun : Bool) (batchSize : Nat) :
    Selection → SqlAction Outcome
  | .row app model pk => do
    let created ← overSql registry (backfillRow registry dryRun app model pk)
    return { code := 0
             reports := []
             log := [⟨.info, "single instance backfill done", [("app", .text app),
               ("model", .text model), ("pk", .int pk.toInt), ("created", .bool created),
               ("dry_run", .bool dryRun)]⟩] }
  | .model app model => do
    let some m := registry.byNames? app model
      | throw (.plain ("Unknown model " ++ app ++ "." ++ model))
    return finished dryRun [← overSql registry (backfillModel dryRun batchSize m)]
  | .models app => do
    return finished dryRun (← overSql registry (backfillAll registry dryRun batchSize app))

def perform (s : Surroundings) (a : Arguments) : SqlAction Outcome := do
  let settings ← ofResult (settings s a)
  let registry ← ofResult settings.registry
  Sql.connect a.databaseUrl
  ensureSchema
  backfill registry (a.dryRun || settings.backfill.dryRun)
    (a.batchSize.getD settings.backfill.batchSize) a.selection

/-- A run of the command. A misuse ends with 2, help and the version with 0. -/
def run (s : Surroundings) (args : List String) : Program Database Outcome :=
  match Invocation.parse? s.env args with
  | none => .done (.silent 2)
  | some .help | some .version => .done (.silent 0)
  | some (.run a) =>
    (perform s a).run.bind fun r =>
      let o := match r with
        | .ok o => o
        | .error f => .failure f
      .done (o.filtered (.ofEnvironment (s.env "RUST_LOG")))

end RowIdentity.Command
