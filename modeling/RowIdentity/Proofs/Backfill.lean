import RowIdentity.Backfill
import RowIdentity.Proofs.Memory
import RowIdentity.Proofs.Trace

/-!
# What a backfill does to the stored state

* `newEntries` — the entries of a batch, each under the draw of its own call;
* `World.exec_backfillBatch` — one batch, evaluated;
* `backfillPages_makes_of_batch` — the calls of a job are those of its batches, and look-ups of keys;
* `backfillPages_moves`, `backfillModel_moves`, `backfillAll_moves` — a relation between states that
  every batch respects is respected by the whole job;
* `World.run_backfillRow` — the backfill of one row, evaluated.
-/

namespace RowIdentity

variable {registry : Registry} {moments : Nat → Moment}

/-- The entries of some rows, made one after another from the `n`-th call on. -/
def newEntries (moments : Nat → Moment) (ty : String) : Nat → List Int64 → List MappingEntry
  | _, [] => []
  | n, pk :: pks => ⟨(moments n).draw, ty, pk, (moments n).now⟩ :: newEntries moments ty (n + 1) pks

theorem mem_newEntries {ty : String} {n : Nat} {pks : List Int64} {e : MappingEntry}
    (h : e ∈ newEntries moments ty n pks) : e.entityType = ty ∧ e.rowKey ∈ pks := by
  induction pks generalizing n with
  | nil => cases h
  | cons pk pks ih =>
    rcases List.mem_cons.1 h with rfl | h
    · exact ⟨rfl, List.mem_cons_self⟩
    · exact ⟨(ih h).1, List.mem_cons_of_mem _ (ih h).2⟩

/-- The rows of a batch that have no entry. -/
def Memory.missing (m : Memory) (ty : String) (pks : List Int64) : List Int64 :=
  pks.filter fun pk => !(m.mappings.mapped ty pks).contains pk

/-- Those of them that are stored. -/
def Memory.survivors (m : Memory) (ty : String) (pks : List Int64) : List Int64 :=
  (m.missing ty pks).filter (m.existing ty (m.missing ty pks)).contains

theorem Memory.missing_eq (m : Memory) (ty : String) (pks : List Int64) :
    m.missing ty pks = pks.filter fun pk => !(m.mappings.mapped ty pks).contains pk := rfl

/-- The rows that a batch gives entries to. -/
theorem Memory.mem_survivors_iff (m : Memory) (ty : String) (pks : List Int64) (pk : Int64) :
    pk ∈ m.survivors ty pks ↔ pk ∈ pks ∧ m.mappings.idOf? ty pk = none ∧ (m.row? ty pk).isSome = true := by
  simp only [survivors, missing, existing, MappingTable.mapped, List.mem_filter, List.contains_iff_mem,
    List.mem_eraseDups, Bool.not_eq_true', ← Bool.not_eq_true]
  cases hid : m.mappings.idOf? ty pk with
  | none => simp
  | some u => simp

namespace World

/-! ## One batch -/

theorem exec_mapM_newEntry (ty : String) (pks : List Int64) (w : World) :
    exec registry moments (pks.mapM (Store.newEntry ty)).run w =
      (.ok (newEntries moments ty w.calls pks), { w with calls := w.calls + pks.length }) := by
  induction pks generalizing w with
  | nil => rfl
  | cons pk pks ih =>
    rw [List.mapM_cons, exec_run_bind]
    have hone : exec registry moments (Store.newEntry ty pk).run w =
        (.ok ⟨(moments w.calls).draw, ty, pk, (moments w.calls).now⟩, w.tick) := rfl
    rw [hone]
    simp only [exec_run_bind, ih]
    have hcalls : w.calls + 1 + pks.length = w.calls + (pk :: pks).length := by
      rw [List.length_cons]
      omega
    rw [← hcalls]
    rfl

/-- One batch. The rows without an entry that are still stored get entries, under the draws of the calls that follow
the two look-ups. -/
theorem exec_backfillBatch (ty : String) (dryRun : Bool) (pks : List Int64) (w : World) :
    exec registry moments (backfillBatch ty dryRun pks).run w =
      if (w.memory.missing ty pks).isEmpty then (.ok ⟨(w.memory.mappings.mapped ty pks).length, 0, 0⟩, w.tick)
      else if dryRun then
        (.ok ⟨(w.memory.mappings.mapped ty pks).length,
          (w.memory.missing ty pks).length - (w.memory.survivors ty pks).length,
          (w.memory.survivors ty pks).length⟩, w.tick.tick)
      else
        (.ok ⟨(w.memory.mappings.mapped ty pks).length,
            (w.memory.missing ty pks).length - (w.memory.survivors ty pks).length,
            (w.memory.insertEntries (newEntries moments ty (w.calls + 2) (w.memory.survivors ty pks))).1⟩,
          { w with
            memory := (w.memory.insertEntries (newEntries moments ty (w.calls + 2) (w.memory.survivors ty pks))).2
            calls := w.calls + 2 + (w.memory.survivors ty pks).length + 1 }) := by
  have hmapped : exec registry moments (Store.mapped ty pks).run w =
      (.ok (w.memory.mappings.mapped ty pks), w.tick) := rfl
  have hexisting : ∀ pks, exec registry moments (Store.existing ty pks).run w.tick =
      (.ok (w.memory.existing ty pks), w.tick.tick) := fun _ => rfl
  unfold backfillBatch
  rw [exec_run_bind, hmapped]
  simp only [← w.memory.missing_eq]
  by_cases hmissing : (w.memory.missing ty pks).isEmpty = true
  · simp only [hmissing, if_true]
    rfl
  · simp only [hmissing, Bool.false_eq_true, if_false]
    rw [exec_run_bind, hexisting]
    cases dryRun with
    | true => rfl
    | false =>
      simp only [Bool.false_eq_true, if_false]
      rw [exec_run_bind, exec_mapM_newEntry]
      rfl

end World

/-! ## Whole models -/

/-- A backfill that is not refused pages through the keys of the model. -/
theorem backfillModel_eq {model : Model} (htracks : model.tracksPublicIds = true) {batchSize : Nat}
    (hbatch : 0 < batchSize) (dryRun : Bool) :
    backfillModel dryRun batchSize model =
      backfillPages batchSize (keySpace + 1) none (.start model.entityType dryRun) := by
  have hsize : checkBatchSize batchSize = .ok () := if_neg (Nat.ne_of_gt hbatch)
  have heligible : checkEligible model = .ok () := if_pos htracks
  unfold backfillModel
  rw [hsize, heligible]
  rfl

/-- A backfill lists as many keys as a batch holds, and makes the calls of its batches. -/
theorem backfillPages_makes_of_batch {Q : BackendCall → Prop} {ty : String} {dryRun : Bool} {batchSize : Nat}
    (hkeys : ∀ cursor, Q (.keys ty cursor batchSize)) (hbatch : ∀ pks, (backfillBatch ty dryRun pks).run.Makes Q)
    (pages : Nat) (cursor : Option Int64) {report : BackfillReport} (hty : report.model = ty)
    (hdry : report.dryRun = dryRun) : (backfillPages batchSize pages cursor report).run.Makes Q := by
  induction pages generalizing cursor report with
  | zero => trivial
  | succ pages ih =>
    unfold backfillPages
    have hlist : Q (.keys report.model cursor batchSize) := hty ▸ hkeys cursor
    refine Program.Makes.except_bind (a := liftM (Store.keys report.model cursor batchSize))
      ⟨hlist, fun _ => trivial⟩ fun pks => ?_
    split
    · refine Program.Makes.except_bind ?_ fun outcome => ?_
      · rw [ExceptT.run_lift, map_eq_pure_bind, hty, hdry]
        exact Program.Makes.bind (hbatch pks) fun _ => trivial
      · split
        · trivial
        · refine ih _ ?_ ?_
          · cases outcome <;> exact hty
          · cases outcome <;> exact hdry
    · trivial

section Relation

variable {R : Memory → Memory → Prop} (hrefl : ∀ m, R m m) (htrans : ∀ a b c, R a b → R b c → R a c)

include hrefl htrans

/-- A relation that every batch of an entity type respects is respected page after page. -/
theorem backfillPages_moves {ty : String} {dryRun : Bool}
    (hbatch : ∀ pks w, R w.memory (World.exec registry moments (backfillBatch ty dryRun pks).run w).2.memory)
    (batchSize pages : Nat) (cursor : Option Int64) (report : BackfillReport) (hty : report.model = ty)
    (hdry : report.dryRun = dryRun) :
    Action.Moves registry moments R (backfillPages batchSize pages cursor report) := by
  induction pages generalizing cursor report with
  | zero => exact Action.Moves.of_reads hrefl (.throw _)
  | succ pages ih =>
    refine Action.Moves.bind htrans (fun w => hrefl w.memory) fun pks => ?_
    split
    next first last _ _ =>
      have hlift : Action.Moves registry moments R
          (ExceptT.lift (backfillBatch report.model report.dryRun pks).run) := by
        intro w
        rw [World.run_lift, hty, hdry]
        exact hbatch pks w
      refine Action.Moves.bind htrans hlift fun outcome => ?_
      split
      · exact Action.Moves.of_reads hrefl (.pure _)
      · refine ih _ _ ?_ ?_
        · cases outcome <;> exact hty
        · cases outcome <;> exact hdry
    next => exact Action.Moves.of_reads hrefl (.pure _)

theorem backfillModel_moves {dryRun : Bool} {model : Model}
    (hbatch : model.tracksPublicIds = true → ∀ pks w,
      R w.memory (World.exec registry moments (backfillBatch model.entityType dryRun pks).run w).2.memory)
    (batchSize : Nat) : Action.Moves registry moments R (backfillModel dryRun batchSize model) := by
  refine Action.Moves.bind htrans (.of_reads hrefl (.result _)) fun _ => ?_
  unfold checkEligible
  split
  next htracks =>
    refine Action.Moves.bind htrans (.of_reads hrefl (.result _)) fun _ => ?_
    exact backfillPages_moves hrefl htrans (hbatch htracks) _ _ _ _ rfl rfl
  next => exact fun w => hrefl w.memory

theorem backfillAll_moves {dryRun : Bool}
    (hbatch : ∀ model ∈ registry.models, model.tracksPublicIds = true → ∀ pks w,
      R w.memory (World.exec registry moments (backfillBatch model.entityType dryRun pks).run w).2.memory)
    (batchSize : Nat) (app : Option String) :
    Action.Moves registry moments R (backfillAll registry dryRun batchSize app) := by
  refine Action.Moves.bind htrans (.of_reads hrefl (.result _)) fun _ => ?_
  refine Action.Moves.mapM hrefl htrans fun model hmodel => ?_
  exact backfillModel_moves hrefl htrans (hbatch model (List.mem_of_mem_filter hmodel)) batchSize

end Relation

/-! ## One row -/

/-- The backfill of one row of a model that tracks public ids. -/
theorem World.run_backfillRow {app name : String} {model : Model} (hmodel : registry.byNames? app name = some model)
    (htracks : model.tracksPublicIds = true) (dryRun : Bool) (pk : Int64) (w : World) :
    run registry moments (backfillRow registry dryRun app name pk) w =
      if (w.memory.row? model.entityType pk).isNone then (.ok false, w.tick)
      else if (w.memory.mappings.entryOf? model.entityType pk).isSome then (.ok false, w.tick.tick)
      else if dryRun then (.ok true, w.tick.tick)
      else
        (.ok ((w.memory.insertEntries (newEntries moments model.entityType (w.calls + 2) [pk])).1 = 1),
          { w with
            memory := (w.memory.insertEntries (newEntries moments model.entityType (w.calls + 2) [pk])).2
            calls := w.calls + 4 }) := by
  have hcheck : checkEligible model = .ok () := by simp [checkEligible, htracks]
  unfold backfillRow
  simp only [hmodel, hcheck, run_bind, run_result, run_row]
  by_cases hrow : (w.memory.row? model.entityType pk).isNone = true
  · simp only [hrow, if_true]
    rfl
  · simp only [hrow, Bool.false_eq_true, if_false, run_bind, run_entryOf, memory_tick]
    by_cases hentry : (w.memory.mappings.entryOf? model.entityType pk).isSome = true
    · simp only [hentry, if_true]
      rfl
    · simp only [hentry, Bool.false_eq_true, if_false]
      cases dryRun with
      | true => rfl
      | false => rfl

/-- Without such a model nothing happens. -/
theorem World.memory_run_backfillRow_of_not {app name : String}
    (h : ∀ model, registry.byNames? app name = some model → model.tracksPublicIds = false) (dryRun : Bool)
    (pk : Int64) (w : World) :
    (run registry moments (backfillRow registry dryRun app name pk) w).2.memory = w.memory := by
  unfold backfillRow
  cases hmodel : registry.byNames? app name with
  | none => rfl
  | some model =>
    have hcheck : checkEligible model = .error (.notEligible model.entityType) := by
      simp [checkEligible, h model hmodel]
    simp only [hcheck]
    rfl

end RowIdentity
