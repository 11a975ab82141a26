import RowIdentity.Proofs.Backfill.Alone
import RowIdentity.Proofs.Registry

/-!
# Dry runs

* `BackfillJob` — the three ways to start a backfill, and what a dry run makes of a result;
* `BackendCall.LooksUp`, `BackfillJob.makes_looksUp` — **the calls of a dry run only look things up**, whatever the
  replies;
* `World.memory_exec_of_looksUp` — such a program leaves the state as it is;
* `World.run_backfillRow_dry` — one row; the models are those of `World.exists_backfillModels_alone`;
* `dryRun_forecasts` — **a dry run writes nothing and tells what the real run would**.
-/

namespace RowIdentity

variable {registry : Registry} {moments : Nat → Moment} {w : World}

/-! ## Jobs -/

/-- The three ways to start a backfill. -/
inductive BackfillJob where
  | oneModel (model : Model) (batchSize : Nat)
  | allModels (app : Option String) (batchSize : Nat)
  | oneRow (app name : String) (pk : Int64)

namespace BackfillJob

def Result : BackfillJob → Type
  | oneModel .. => BackfillReport
  | allModels .. => List BackfillReport
  | oneRow .. => Bool

def action (registry : Registry) (dryRun : Bool) : (job : BackfillJob) → Action job.Result
  | oneModel model batchSize => backfillModel dryRun batchSize model
  | allModels app batchSize => backfillAll registry dryRun batchSize app
  | oneRow app name pk => backfillRow registry dryRun app name pk

/-- The result with the mark of a dry run on each report. -/
def marked : (job : BackfillJob) → job.Result → job.Result
  | oneModel .., report => { report with dryRun := true }
  | allModels .., reports => reports.map fun report => { report with dryRun := true }
  | oneRow .., made => made

/-- The job is not refused: its batches hold rows, and its model is known and tracks public ids. -/
def Accepted (registry : Registry) : BackfillJob → Prop
  | oneModel model batchSize => 0 < batchSize ∧ model.tracksPublicIds = true
  | allModels _ batchSize => 0 < batchSize
  | oneRow app name _ => ∃ model, registry.byNames? app name = some model ∧ model.tracksPublicIds = true

end BackfillJob

/-! ## Calls that look things up -/

/-- The look-ups of a backfill. -/
inductive BackendCall.LooksUp : BackendCall → Prop
  | row (ty : String) (pk : Int64) : LooksUp (.row ty pk)
  | keys (ty : String) (after : Option Int64) (limit : Nat) : LooksUp (.keys ty after limit)
  | existing (ty : String) (pks : List Int64) : LooksUp (.existing ty pks)
  | entryOf (ty : String) (pk : Int64) : LooksUp (.entryOf ty pk)
  | mapped (ty : String) (pks : List Int64) : LooksUp (.mapped ty pks)

theorem BackendCall.LooksUp.ne_insertEntries {c : BackendCall} (h : c.LooksUp) (es : List MappingEntry) :
    c ≠ .insertEntries es := by
  rintro rfl
  cases h

/-- A program that only looks things up leaves the state as it is. -/
theorem World.memory_exec_of_looksUp {α : Type} {p : Program Backend α} (hp : p.Makes BackendCall.LooksUp) (w : World) :
    (exec registry moments p w).2.memory = w.memory := by
  induction p generalizing w with
  | done a => rfl
  | call c next ih =>
    obtain ⟨hc, hnext⟩ := hp
    have hanswer : (w.answer registry moments c).2.memory = w.memory := by cases hc <;> rfl
    exact (ih _ (hnext _) _).trans hanswer

theorem backfillBatch_makes_looksUp (ty : String) (pks : List Int64) :
    (backfillBatch ty true pks).run.Makes BackendCall.LooksUp := by
  unfold backfillBatch
  refine Program.Makes.except_bind (a := Store.mapped ty pks) ⟨.mapped ty pks, fun _ => trivial⟩ fun mapped => ?_
  simp only [if_true]
  split
  · trivial
  · exact Program.Makes.except_bind (a := Store.existing ty _) ⟨BackendCall.LooksUp.existing ty _, fun _ => trivial⟩
      fun existing => trivial

theorem backfillModel_makes_looksUp (batchSize : Nat) (model : Model) :
    (backfillModel true batchSize model).run.Makes BackendCall.LooksUp := by
  unfold backfillModel
  refine Program.Makes.except_bind (a := liftM (checkBatchSize batchSize)) trivial fun _ => ?_
  refine Program.Makes.except_bind (a := liftM (checkEligible model)) trivial fun _ => ?_
  exact backfillPages_makes_of_batch (fun _ => .keys _ _ _) (backfillBatch_makes_looksUp _) _ _ rfl rfl

theorem backfillRow_makes_looksUp (registry : Registry) (app name : String) (pk : Int64) :
    (backfillRow registry true app name pk).run.Makes BackendCall.LooksUp := by
  unfold backfillRow
  split
  next model _ =>
    refine Program.Makes.except_bind (a := liftM (checkEligible model)) trivial fun _ => ?_
    refine Program.Makes.except_bind (a := liftM (Store.row model.entityType pk)) ⟨.row _ _, fun _ => trivial⟩
      fun row? => ?_
    split
    · trivial
    · refine Program.Makes.except_bind (a := liftM (Store.entryOf model.entityType pk)) ⟨.entryOf _ _, fun _ => trivial⟩
        fun entry? => ?_
      split
      · trivial
      · trivial
  next => trivial

/-- **The calls of a dry run only look things up**, whatever the replies. -/
theorem BackfillJob.makes_looksUp (registry : Registry) (job : BackfillJob) :
    (job.action registry true).run.Makes BackendCall.LooksUp := by
  cases job with
  | oneModel model batchSize => exact backfillModel_makes_looksUp batchSize model
  | allModels app batchSize =>
    refine Program.Makes.except_bind (a := liftM (checkBatchSize batchSize)) trivial fun _ => ?_
    exact Program.Makes.mapM fun model => backfillModel_makes_looksUp batchSize model
  | oneRow app name pk => exact backfillRow_makes_looksUp registry app name pk

/-! ## What a dry run tells -/

/-- A job that is refused is refused at once, dry or not. -/
theorem BackfillJob.action_of_not_accepted {job : BackfillJob} (h : ¬ job.Accepted registry) :
    ∃ e, ∀ dryRun, job.action registry dryRun = throw e := by
  cases job with
  | oneModel model batchSize =>
    by_cases hbatch : 0 < batchSize
    · have htracks : model.tracksPublicIds = false := Bool.eq_false_iff.2 fun htracks => h ⟨hbatch, htracks⟩
      refine ⟨.notEligible model.entityType, fun dryRun => ?_⟩
      simp only [action, backfillModel, checkBatchSize, Nat.ne_of_gt hbatch, if_false, checkEligible, htracks,
        Bool.false_eq_true]
      rfl
    · obtain rfl := Nat.eq_zero_of_not_pos hbatch
      exact ⟨_, fun _ => rfl⟩
  | allModels app batchSize =>
    obtain rfl := Nat.eq_zero_of_not_pos h
    exact ⟨_, fun _ => rfl⟩
  | oneRow app name pk =>
    cases hmodel : registry.byNames? app name with
    | none =>
      refine ⟨.unknownType (app ++ "." ++ name), fun dryRun => ?_⟩
      simp only [action, backfillRow, hmodel]
      rfl
    | some model =>
      have htracks : model.tracksPublicIds = false := Bool.eq_false_iff.2 fun htracks => h ⟨model, hmodel, htracks⟩
      refine ⟨.notEligible model.entityType, fun dryRun => ?_⟩
      simp only [action, backfillRow, hmodel, checkEligible, htracks, Bool.false_eq_true, if_false]
      rfl

/-- The models that a backfill of all goes through. -/
theorem nodup_backfillTargets (hreg : registry.Indexed) (app : Option String) :
    ((backfillTargets registry app).map (·.entityType)).Nodup :=
  hreg.types.sublist (List.filter_sublist.map _)

theorem tracksPublicIds_of_mem_backfillTargets {app : Option String} {model : Model}
    (h : model ∈ backfillTargets registry app) : model.tracksPublicIds = true :=
  (Bool.and_eq_true_iff.1 (List.mem_filter.1 h).2).2

theorem backfillAll_eq {batchSize : Nat} (hbatch : 0 < batchSize) (registry : Registry) (app : Option String)
    (dryRun : Bool) :
    backfillAll registry dryRun batchSize app =
      (backfillTargets registry app).mapM (backfillModel dryRun batchSize) := by
  simp only [backfillAll, checkBatchSize, Nat.ne_of_gt hbatch, if_false]
  rfl

/-- **A job that is not refused ends with a result, dry or not**, and the two are the same but for the mark. -/
theorem BackfillJob.forecasts_of_accepted (hreg : registry.Indexed) (hw : w.memory.Regular) {job : BackfillJob}
    (haccepted : job.Accepted registry) (hfresh : w.Fresh registry moments (job.action registry false).run) :
    ∃ result, (World.run registry moments (job.action registry false) w).1 = .ok result ∧
      (World.run registry moments (job.action registry true) w).1 = .ok (job.marked result) := by
  cases job with
  | oneModel model batchSize =>
    obtain ⟨hbatch, htracks⟩ := haccepted
    obtain ⟨w₁, hreal, -⟩ := World.exists_backfillModel_alone registry moments false htracks hbatch hw fun _ => hfresh
    obtain ⟨w₂, hdry, -⟩ := World.exists_backfillModel_alone registry moments true htracks hbatch hw nofun
    exact ⟨_, congrArg Prod.fst hreal, congrArg Prod.fst hdry⟩
  | allModels app batchSize =>
    have hall := backfillAll_eq haccepted registry app
    have htracks : ∀ model ∈ backfillTargets registry app, model.tracksPublicIds = true :=
      fun _ => tracksPublicIds_of_mem_backfillTargets
    have hnodup := nodup_backfillTargets hreg app
    replace hfresh : w.Fresh registry moments (backfillAll registry false batchSize app).run := hfresh
    rw [hall] at hfresh
    obtain ⟨w₁, hreal⟩ := World.exists_backfillModels_alone registry moments false htracks hnodup haccepted
      hw fun _ => hfresh
    obtain ⟨w₂, hdry⟩ := World.exists_backfillModels_alone registry moments true htracks hnodup haccepted hw
      nofun
    rw [← hall] at hreal hdry
    have hmarked : ((backfillTargets registry app).map fun model =>
          w.memory.backfillReport model.entityType batchSize false).map (fun report => { report with dryRun := true }) =
        (backfillTargets registry app).map fun model => w.memory.backfillReport model.entityType batchSize true := by
      rw [List.map_map]
      rfl
    exact ⟨_, congrArg Prod.fst hreal, (congrArg Prod.fst hdry).trans (congrArg Except.ok hmarked.symm)⟩
  | oneRow app name pk =>
    obtain ⟨model, hmodel, htracks⟩ := haccepted
    obtain ⟨w₁, hreal, -⟩ := World.exists_backfillRow_alone moments hmodel htracks false hw fun _ => hfresh
    obtain ⟨w₂, hdry, -⟩ := World.exists_backfillRow_alone moments hmodel htracks true hw nofun
    exact ⟨_, congrArg Prod.fst hreal, congrArg Prod.fst hdry⟩

/-- **A dry run writes nothing and tells what the real run would.** Whatever a service replies, it is never asked to
insert entries, and a database is left as it is. Without other clients the result is that of the real run from the same
state, with the same error if the job is refused, and with the same reports but for the mark of a dry run if it is
not. -/
theorem dryRun_forecasts (registry : Registry) (job : BackfillJob) :
    ((job.action registry true).run.Makes fun c : BackendCall => ∀ es, c ≠ .insertEntries es) ∧
      (∀ moments w, (World.run registry moments (job.action registry true) w).2.memory = w.memory) ∧
      ∀ moments w, registry.Built → Memory.Reachable registry w.memory →
        w.Fresh registry moments (job.action registry false).run →
          (World.run registry moments (job.action registry true) w).1 =
              (World.run registry moments (job.action registry false) w).1.map job.marked ∧
            (job.Accepted registry →
              ∃ result, (World.run registry moments (job.action registry true) w).1 = .ok result) := by
  have hlooks := job.makes_looksUp registry
  refine ⟨hlooks.mono fun c hc => hc.ne_insertEntries, fun moments w => World.memory_exec_of_looksUp hlooks w, ?_⟩
  intro moments w hreg hw hfresh
  by_cases haccepted : job.Accepted registry
  · obtain ⟨result, hreal, hdry⟩ := BackfillJob.forecasts_of_accepted hreg.indexed hw.regular haccepted hfresh
    rw [hreal, hdry]
    exact ⟨rfl, fun _ => ⟨_, rfl⟩⟩
  · obtain ⟨e, he⟩ := BackfillJob.action_of_not_accepted haccepted
    rw [he, he]
    exact ⟨rfl, fun h => absurd h haccepted⟩

/-- Two widgets without entries would get one each in batches of one. -/
theorem dryRun_forecasts_widgets :
    (World.run .widgets .counted (backfillAll .widgets true 1 none) World.loaded).1 =
        .ok [⟨"shop.widget", 2, 2, 2, 0, 0, [], true⟩] ∧
      (World.run .widgets .counted (backfillAll .widgets true 1 none) World.loaded).2.memory = World.loaded.memory := by
  have hids : World.loaded.Fresh .widgets .counted (BackfillJob.action .widgets false (.allModels none 1)).run :=
    Program.throughout_of_all (by decide +kernel)
  obtain ⟨-, hsame, hforecast⟩ := dryRun_forecasts .widgets (.allModels none 1)
  have hreport := (hforecast .counted World.loaded Registry.built_widgets Memory.reachable_loaded hids).1
  have hreal : (World.run .widgets .counted (backfillAll .widgets false 1 none) World.loaded).1 =
      .ok [⟨"shop.widget", 2, 2, 2, 0, 0, [], false⟩] := by
    decide +kernel
  exact ⟨hreport.trans (congrArg (Except.map _) hreal), hsame _ _⟩

end RowIdentity
