import RowIdentity.Command.Run
import RowIdentity.Proofs.Command.Scan
import RowIdentity.Proofs.Memory

/-!
# What success of the backfill command means

* `Scanned`, `scanned_of_models` — complete reports come from one scan for each model;
* `Command.Selection.targets`, `scanned_of_selection` — the models that a selection stands for, and their scans;
* `Command.perform_inv` — a run that gets through: settings, connection, schema, and then the backfill;
* `backfill_success` — **the exit code 0 leaves no key out, and whatever fails shows in the exit code**.
-/

namespace RowIdentity

open Program

variable {registry : Registry} {batchSize : Nat} {d : List (Exchange Database)}

/-! ## Models -/

/-- The dialogue of a model: one scan of its table. -/
def Scanned (registry : Registry) (batchSize : Nat) (model : Model) (d : List (Exchange Database)) : Prop :=
  ∃ table, SqlStore.table registry model.entityType = .ok table ∧ Scan model.entityType table batchSize none d

theorem checkBatchSize_eq_ok {u : Unit} (h : checkBatchSize batchSize = .ok u) : 0 < batchSize := by
  unfold checkBatchSize at h
  split at h
  · cases h
  · omega

theorem scanned_of_model {model : Model} {report : BackfillReport}
    (h : Says registry (backfillModel false batchSize model) d report) (hcomplete : report.isComplete = true) :
    Scanned registry batchSize model d := by
  obtain ⟨_, _, _, rfl, hsize, hafter⟩ := Says.bind_inv h
  obtain ⟨_, pages, _, rfl, heligible, hpages⟩ := Says.bind_inv hafter
  obtain ⟨rfl, hpositive⟩ := Says.result_inv hsize
  obtain ⟨rfl, -⟩ := Says.result_inv heligible
  exact (scan_of_pages (checkBatchSize_eq_ok hpositive) rfl hpages hcomplete).2

theorem scanned_of_models {models : List Model} {reports : List BackfillReport}
    (h : Says registry (models.mapM (backfillModel false batchSize)) d reports)
    (hcomplete : reports.all BackfillReport.isComplete = true) :
    ∃ parts, d = parts.flatten ∧ List.Forall₂ (Scanned registry batchSize) models parts := by
  induction models generalizing d reports with
  | nil =>
    rw [List.mapM_nil] at h
    obtain ⟨rfl, -⟩ := Says.pure_inv h
    exact ⟨[], rfl, .nil⟩
  | cons model models ih =>
    rw [List.mapM_cons] at h
    obtain ⟨first, later, report, rfl, hmodel, hlater⟩ := Says.bind_inv h
    obtain ⟨rest, final, reports', rfl, hmodels, hfinal⟩ := Says.bind_inv hlater
    obtain ⟨rfl, rfl⟩ := Says.pure_inv hfinal
    rw [List.all_cons, Bool.and_eq_true] at hcomplete
    obtain ⟨parts, rfl, hparts⟩ := ih hmodels hcomplete.2
    exact ⟨first :: parts, by simp, .cons (scanned_of_model hmodel hcomplete.1) hparts⟩

theorem not_failed_of_scanned {models : List Model} {parts : List (List (Exchange Database))}
    (h : List.Forall₂ (Scanned registry batchSize) models parts) : ∀ x ∈ parts.flatten, ¬ x.Failed := by
  induction h with
  | nil => exact fun _ hx => nomatch hx
  | cons hscanned _ ih =>
    obtain ⟨_, _, hscan⟩ := hscanned
    intro x hx
    rcases List.mem_append.1 hx with hx | hx
    · exact hscan.not_failed x hx
    · exact ih x hx

/-! ## Selections -/

namespace Command

/-- The models that a selection stands for; a row by itself stands for none. -/
def Selection.targets (registry : Registry) : Selection → List Model
  | .row .. => []
  | .model app name => (registry.byNames? app name).toList
  | .models app => backfillTargets registry app

theorem ofResult_inv {α : Type} {r : IdResult α} {x : α} (h : Ends (ofResult r).run d (.ok x)) :
    d = [] ∧ r = .ok x := by
  obtain ⟨rfl, hok⟩ := h
  cases r with
  | ok y =>
    cases hok
    exact ⟨rfl, rfl⟩
  | error e => cases hok

theorem overSql_inv {α : Type} {a : Action α} {x : α} (h : Ends (overSql registry a).run d (.ok x)) :
    Says registry a d x := by
  obtain ⟨before, after, r, rfl, ha, hr⟩ := Ends.bind_inv h
  obtain ⟨rfl, hok⟩ := hr
  cases r with
  | ok y =>
    cases hok
    rwa [List.append_nil]
  | error e => cases hok

theorem finished_code (dryRun : Bool) (reports : List BackfillReport) :
    ((finished dryRun reports).code = 0 ∧ reports.all BackfillReport.isComplete = true) ∨
      (finished dryRun reports).code = 2 := by
  unfold finished
  split
  next hall => exact .inl ⟨rfl, hall⟩
  next => exact .inr rfl

/-- Rows aside, the backfill ends with 0 only when every model that is selected has been scanned, and else with 2. -/
theorem scanned_of_selection {selection : Selection} {o : Outcome}
    (hrow : ∀ app model pk, selection ≠ .row app model pk)
    (h : Ends (backfill registry false batchSize selection).run d (.ok o)) :
    (o.code = 0 ∧ ∃ parts, d = parts.flatten ∧
      List.Forall₂ (Scanned registry batchSize) (selection.targets registry) parts) ∨ o.code = 2 := by
  cases selection with
  | row app model pk => exact absurd rfl (hrow app model pk)
  | model app name =>
    cases hmodel : registry.byNames? app name with
    | none =>
      simp only [backfill, hmodel] at h
      exact absurd h Ends.not_throw
    | some model =>
      simp only [backfill, hmodel] at h
      obtain ⟨part, _, report, rfl, hreport, hpure⟩ := Ends.except_bind_inv h
      obtain ⟨rfl, rfl⟩ := Ends.pure_inv hpure
      rcases finished_code false [report] with ⟨hcode, hall⟩ | hcode
      · refine .inl ⟨hcode, [part], by simp, ?_⟩
        simp only [Selection.targets, hmodel, Option.toList]
        exact .cons (scanned_of_model (overSql_inv hreport) (by simpa using hall)) .nil
      · exact .inr hcode
  | models app =>
    obtain ⟨part, _, reports, rfl, hreports, hpure⟩ := Ends.except_bind_inv h
    obtain ⟨rfl, rfl⟩ := Ends.pure_inv hpure
    rcases finished_code false reports with ⟨hcode, hall⟩ | hcode
    · obtain ⟨_, rest, _, rfl, hsize, hmodels⟩ := Says.bind_inv (overSql_inv hreports)
      obtain ⟨rfl, -⟩ := Says.result_inv hsize
      rw [List.append_nil]
      exact .inl ⟨hcode, scanned_of_models hmodels hall⟩
    · exact .inr hcode

/-! ## A whole run -/

/-- A run that gets as far as its backfill has connected and made the schema before. -/
theorem perform_inv {s : Surroundings} {a : Arguments} {o : Outcome} (h : Ends (perform s a).run d (.ok o)) :
    ∃ settings registry before after, Command.settings s a = .ok settings ∧ settings.registry = .ok registry ∧
      d = before ++ after ∧ Smooth before ∧
      Ends (backfill registry (a.dryRun || settings.backfill.dryRun)
        (a.batchSize.getD settings.backfill.batchSize) a.selection).run after (.ok o) := by
  obtain ⟨_, _, settings, rfl, hread, h₁⟩ := Ends.except_bind_inv h
  obtain ⟨_, _, registry, rfl, hregister, h₂⟩ := Ends.except_bind_inv h₁
  obtain ⟨_, _, _, rfl, hconnect, h₃⟩ := Ends.except_bind_inv h₂
  obtain ⟨_, rest, _, rfl, hschema, h₄⟩ := Ends.except_bind_inv h₃
  obtain ⟨rfl, hsettings⟩ := ofResult_inv hread
  obtain ⟨rfl, hregistry⟩ := ofResult_inv hregister
  obtain rfl := Sql.connect_inv hconnect
  obtain ⟨r₁, r₂, r₃, rfl⟩ := ensureSchema_inv hschema
  refine ⟨settings, registry, [.connected a.databaseUrl, .told .createMappings r₁, .told .createInsertFunction r₂,
    .told .createDeleteFunction r₃], rest, hsettings, hregistry, rfl, ?_, h₄⟩
  exact .cons (Exchange.plain_connected _) (.cons (Exchange.plain_told (by simp) r₁)
    (.cons (Exchange.plain_told (by simp) r₂) (.cons (Exchange.plain_told (by simp) r₃) .nil)))

/-- The dialogue of a run that leaves nothing out: the connection and the schema, and then one scan for each model that
is selected, with batches of the size that is asked for or configured. -/
def Covers (s : Surroundings) (a : Arguments) (d : List (Exchange Database)) : Prop :=
  ∃ settings registry before parts, Command.settings s a = .ok settings ∧ settings.registry = .ok registry ∧
    d = before ++ parts.flatten ∧ Smooth before ∧
    List.Forall₂ (Scanned registry (a.batchSize.getD settings.backfill.batchSize)) (a.selection.targets registry) parts

theorem Covers.not_failed {s : Surroundings} {a : Arguments} (h : Covers s a d) : ∀ x ∈ d, ¬ x.Failed := by
  obtain ⟨settings, registry, before, parts, -, -, rfl, hbefore, hparts⟩ := h
  intro x hx
  rcases List.mem_append.1 hx with hx | hx
  · exact (hbefore x hx).carried
  · exact not_failed_of_scanned hparts x hx

theorem Arguments.selection_ne_row {a : Arguments} (hpk : a.pk = none) (app model : String) (pk : Int64) :
    a.selection ≠ .row app model pk := by
  unfold Arguments.selection
  rw [hpk]
  cases a.app <;> cases a.model <;> exact Selection.noConfusion

/-- A run ends with 0 only when nothing was left out, else with 1 or 2. -/
theorem covers_of_run {s : Surroundings} {args : List String} {a : Arguments} {o : Outcome}
    (hparse : Invocation.parse? s.env args = some (.run a)) (hpk : a.pk = none) (hdry : a.dryRun = false)
    (hconfigured : ∀ settings, Command.settings s a = .ok settings → settings.backfill.dryRun = false)
    (h : (run s args).Ends d o) : (o.code = 0 ∧ Covers s a d) ∨ o.code = 1 ∨ o.code = 2 := by
  simp only [run, hparse] at h
  obtain ⟨before, after, r, rfl, hperform, hfinal⟩ := Ends.bind_inv h
  obtain ⟨rfl, rfl⟩ := hfinal
  rw [List.append_nil]
  cases r with
  | error f => exact .inr (.inl rfl)
  | ok o =>
    obtain ⟨settings, registry, before, after, hsettings, hregistry, rfl, hbefore, hbackfill⟩ := perform_inv hperform
    rw [hdry, hconfigured settings hsettings] at hbackfill
    rcases scanned_of_selection (Arguments.selection_ne_row hpk) hbackfill with ⟨hcode, parts, rfl, hparts⟩ | hcode
    · exact .inl ⟨hcode, settings, registry, before, parts, hsettings, hregistry, rfl, hbefore, hparts⟩
    · exact .inr (.inr hcode)

end Command

/-- **Success of the backfill means that nothing was left out.** Whatever is configured, whatever the arguments are that
ask for no single row and no dry run, and whatever the server replies: when the run ends with 0, each model that is
selected has been scanned, so that every key that the server listed came to one of its three ends in its own batch. And
when anything failed between the program and the server, the run ends with 1 or 2. -/
theorem backfill_success {σ : Type} (answer : (c : SqlCall) → σ → c.Reply × σ) (server : σ) (s : Command.Surroundings)
    (args : List String) (a : Command.Arguments) (hparse : Command.Invocation.parse? s.env args = some (.run a))
    (hpk : a.pk = none) (hdry : a.dryRun = false)
    (hconfigured : ∀ settings, Command.settings s a = .ok settings → settings.backfill.dryRun = false) :
    ((Program.run (I := Database) answer (Command.run s args) server).1.code = 0 →
      Command.Covers s a (dialogue (I := Database) answer (Command.run s args) server)) ∧
    ((∃ x ∈ dialogue (I := Database) answer (Command.run s args) server, x.Failed) →
      (Program.run (I := Database) answer (Command.run s args) server).1.code = 1 ∨
        (Program.run (I := Database) answer (Command.run s args) server).1.code = 2) := by
  have hends := ends_dialogue (I := Database) answer (Command.run s args) server
  rcases Command.covers_of_run hparse hpk hdry hconfigured hends with ⟨hcode, hcovers⟩ | hcode
  · refine ⟨fun _ => hcovers, ?_⟩
    rintro ⟨x, hx, hfailed⟩
    exact absurd hfailed (hcovers.not_failed x hx)
  · exact ⟨fun hzero => by omega, fun _ => hcode⟩

/-! ## A run over three keys -/

/-- A directory with settings of one model, and nothing in the environment. -/
def Command.Surroundings.widgets : Surroundings where
  env _ := none
  file _ := .text "models:\n- app_label: shop\n  model_name: widget\n  schemes: [public_id]\n"

/-- A reply of one column of keys. -/
def SqlResult.ofKeys (pks : List Int64) : SqlResult := ⟨0, pks.map fun pk => [.int pk]⟩

/-- A server that lists three keys: the first is mapped, the row of the second has vanished, and the third takes an
entry. -/
def SqlCall.answerThree : (c : SqlCall) → Unit → c.Reply × Unit
  | .connect _, _ | .begin, _ | .commit, _ => (Except.ok (), ())
  | .rollback, _ => ((), ())
  | .run (.keys ..), _ => (Except.ok (.ofKeys [1, 2, 3]), ())
  | .run (.mapped ..), _ => (Except.ok (.ofKeys [1]), ())
  | .run (.existing ..), _ => (Except.ok (.ofKeys [3]), ())
  | .run _, _ => (Except.ok ⟨1, []⟩, ())
  | .flag, _ => (false, ())
  | .stamp, _ => (⟨.zeroV4, ⟨0, 0⟩⟩, ())

/-- The run over the three keys ends with 0 and leaves none of them out. -/
theorem backfill_success_widgets :
    (Program.run (I := Database) SqlCall.answerThree (Command.run .widgets ["--database-url", "postgres:"]) ()).1.code =
        0 ∧
      Command.Covers .widgets ⟨"postgres:", "ids.yaml", none, none, none, none, false⟩
        (dialogue (I := Database) SqlCall.answerThree (Command.run .widgets ["--database-url", "postgres:"]) ()) := by
  have hcode : (Program.run (I := Database) SqlCall.answerThree
      (Command.run .widgets ["--database-url", "postgres:"]) ()).1.code = 0 := by decide +kernel
  have hparse : Command.Invocation.parse? Command.Surroundings.widgets.env ["--database-url", "postgres:"] =
      some (.run ⟨"postgres:", "ids.yaml", none, none, none, none, false⟩) := by decide +kernel
  have hread : Command.settings .widgets ⟨"postgres:", "ids.yaml", none, none, none, none, false⟩ =
      .ok ⟨false, .default, [⟨"shop", "widget", none, none, none, .autoIncrement, [.publicId], none⟩]⟩ := by
    decide +kernel
  have hconfigured : ∀ settings, Command.settings .widgets ⟨"postgres:", "ids.yaml", none, none, none, none, false⟩ =
      .ok settings → settings.backfill.dryRun = false := by
    intro settings hsettings
    rw [hread] at hsettings
    cases hsettings
    rfl
  exact ⟨hcode, (backfill_success SqlCall.answerThree () .widgets _ _ hparse rfl rfl hconfigured).1 hcode⟩

end RowIdentity
