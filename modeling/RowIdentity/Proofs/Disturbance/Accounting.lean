import RowIdentity.Proofs.Disturbance.Coverage

/-!
# The accounts of a backfill whose calls may fail

* `gaining` — the rows that a backfill gives entries to;
* `BackfillAccounts`, `Covered.accounts` — what a backfill reports, and what it has done, once all batches are covered;
* `backfill_accounts` — **whichever calls fail, the accounts are in order, and so are those of a later run**.
-/

namespace RowIdentity

variable {registry : Registry} {moments : Nat → Moment} {d : Disturbance} {m m' : Memory} {ty : String}
  {batchSize : Nat}

/-! ## The accounts -/

/-- The rows that a backfill gives entries to: those without one in the batches that do not fail. -/
def gaining (d : Disturbance) (ty : String) (batchSize : Nat) (steps : List (BackendCall × Disturbed)) (m : Memory) :
    List Int64 :=
  m.missing ty (soundKeys d steps (batchesOf batchSize (Assoc.keys (m.table ty))))

/-- Rows that have entries gain none. -/
theorem gaining_eq_nil (hbatch : 0 < batchSize)
    (hall : ∀ pk ∈ Assoc.keys (m.table ty), (m.mappings.idOf? ty pk).isSome = true)
    (steps : List (BackendCall × Disturbed)) : gaining d ty batchSize steps m = [] := by
  rw [gaining, Memory.missing_eq_filter]
  refine List.filter_eq_nil_iff.2 fun pk hpk => ?_
  have hkey := soundKeys_subset d steps _ hpk
  rw [flatten_batchesOf hbatch] at hkey
  rw [Option.isNone_iff_eq_none]
  exact Option.isSome_iff_ne_none.1 (hall pk hkey)

/-- If no call fails, all rows without an entry gain one. -/
theorem gaining_of_not_fails (hbatch : 0 < batchSize) {steps : List (BackendCall × Disturbed)}
    (hnone : ∀ x ∈ steps, d.Fails x.1 x.2 = false) :
    gaining d ty batchSize steps m = m.missing ty (Assoc.keys (m.table ty)) := by
  rw [gaining, soundKeys_of_not_fails hnone, flatten_batchesOf hbatch]

/-- A backfill has paged through the stored rows of a model; the accounts are what it reports, and what it has done to
the database. -/
structure BackfillAccounts (d : Disturbance) (ty : String) (batchSize : Nat) (steps : List (BackendCall × Disturbed))
    (m : Memory) (report : BackfillReport) (m' : Memory) : Prop where
  batches : report.batches = ((m.table ty).length + batchSize - 1) / batchSize
  scanned : report.scanned = (m.table ty).length
  vanished : report.vanished = 0
  /-- There is one failure for each batch with a call that fails, in the order of the batches. -/
  failures : List.Forall₂ (BatchFailure.Of ty)
    (failingBatches d steps (batchesOf batchSize (Assoc.keys (m.table ty)))) report.failures
  accounted : report.scanned =
    report.created + report.alreadyMapped + (report.failures.flatMap BatchFailure.keys).length
  created : report.created = (gaining d ty batchSize steps m).length
  /-- Each row that gains an entry has exactly one. -/
  gained : ∀ pk ∈ gaining d ty batchSize steps m, ∃ e, m'.mappings.entriesOf ty pk = [e]
  /-- All other rows, of whatever model, have the entries that they had. -/
  kept : ∀ ty' pk, (ty' = ty → pk ∉ gaining d ty batchSize steps m) →
    m'.mappings.entriesOf ty' pk = m.mappings.entriesOf ty' pk
  size : m'.mappings.size = m.mappings.size + report.created
  tables : m'.tables = m.tables
  sequences : m'.sequences = m.sequences
  /-- Where all rows have entries, nothing changes. -/
  idle : (∀ pk ∈ Assoc.keys (m.table ty), (m.mappings.idOf? ty pk).isSome = true) → report.created = 0 ∧ m' = m
  /-- If no call fails, exactly the missing entries are made, and all rows have one. -/
  recovered : (∀ x ∈ steps, d.Fails x.1 x.2 = false) →
    report.failures = [] ∧ report.created = (m.missing ty (Assoc.keys (m.table ty))).length ∧
      ∀ pk ∈ Assoc.keys (m.table ty), ∃ e, m'.mappings.entriesOf ty pk = [e]

theorem map_keys_of_forall₂ {bs : List (List Int64)} {fs : List BatchFailure}
    (h : List.Forall₂ (BatchFailure.Of ty) bs fs) : fs.map BatchFailure.keys = bs := by
  induction h with
  | nil => rfl
  | cons hof _ ih => rw [List.map_cons, hof.keys, ih]

/-- When all batches are covered, the accounts are in order. -/
theorem Covered.accounts (hbatch : 0 < batchSize) (hm : m.Regular) {steps : List (BackendCall × Disturbed)}
    {report : BackfillReport}
    (h : Covered d ty (batchesOf batchSize (Assoc.keys (m.table ty))) steps m (.start ty false) m' report) :
    BackfillAccounts d ty batchSize steps m report m' := by
  have hlength : (Assoc.keys (m.table ty)).length = (m.table ty).length := List.length_map _
  have hflat := flatten_batchesOf hbatch (Assoc.keys (m.table ty))
  have hscanned : report.scanned = (m.table ty).length := by
    rw [h.scanned, hflat, hlength]
    exact Nat.zero_add _
  obtain ⟨fs, hfs, hof⟩ := h.failures
  obtain rfl : report.failures = fs := hfs
  obtain ⟨es, hes, hfits, hcreated, rfl⟩ := h.entries
  replace hes : es.map MappingEntry.key = (gaining d ty batchSize steps m).map (ty, ·) := hes
  replace hcreated : report.created = es.length := hcreated.trans (Nat.zero_add _)
  have hgaining : report.created = (gaining d ty batchSize steps m).length := by
    rw [hcreated, ← List.length_map MappingEntry.key, hes, List.length_map]
  have hgained : ∀ pk ∈ gaining d ty batchSize steps m, ∃ e, (m.mappings.addAll es).entriesOf ty pk = [e] :=
    fun pk hpk => (hm.coherent.addAll hfits).exists_entriesOf
      (hfits.isSome_idOf?_addAll (hes ▸ List.mem_map_of_mem hpk))
  have hkept : ∀ ty' pk, (ty' = ty → pk ∉ gaining d ty batchSize steps m) →
      (m.mappings.addAll es).entriesOf ty' pk = m.mappings.entriesOf ty' pk := by
    intro ty' pk hnot
    refine hfits.entriesOf_addAll hm.coherent fun hkey => ?_
    rw [hes] at hkey
    obtain ⟨k, hk, heq⟩ := List.mem_map.1 hkey
    obtain ⟨rfl, rfl⟩ := Prod.mk.inj heq
    exact hnot rfl hk
  refine ⟨?_, hscanned, h.vanished, hof, ?_, hgaining, hgained, hkept, ?_, rfl, rfl, fun hall => ?_, fun hnone => ?_⟩
  · rw [h.batches, length_batchesOf, hlength]
    exact Nat.zero_add _
  · have haccounted := h.accounted
    have hcounted := length_soundKeys_add d steps (batchesOf batchSize (Assoc.keys (m.table ty)))
    change _ = 0 + 0 + _ at haccounted
    rw [hflat, hlength] at hcounted
    rw [hscanned, List.flatMap_def, map_keys_of_forall₂ hof]
    omega
  · rw [hfits.size_addAll, hcreated]
  · rw [gaining_eq_nil hbatch hall] at hes hgaining
    obtain rfl : es = [] := List.map_eq_nil_iff.1 hes
    exact ⟨hgaining, rfl⟩
  · rw [gaining_of_not_fails hbatch hnone] at hgaining hgained hkept
    rw [failingBatches_of_not_fails hnone] at hof
    refine ⟨List.forall₂_nil_left_iff.1 hof, hgaining, fun pk hpk => ?_⟩
    by_cases hmissing : pk ∈ m.missing ty (Assoc.keys (m.table ty))
    · exact hgained pk hmissing
    · rw [Memory.missing_eq_filter, List.mem_filter, and_iff_right hpk, Option.isNone_iff_eq_none] at hmissing
      exact (hm.coherent.addAll hfits).exists_entriesOf
        (hfits.keeps.isSome_idOf? (Option.isSome_iff_ne_none.2 hmissing))

namespace Disturbed

variable {w : World}

/-- A run with its reports. -/
theorem run_eq {α : Type} (a : Action α) (w : World) :
    run registry moments d a w =
      ((exec registry moments d a.run ⟨w, []⟩).1, (exec registry moments d a.run ⟨w, []⟩).2.world) := rfl

/-- Whichever calls fail, a backfill ends, and its accounts are in order. -/
theorem exists_backfillModel (hw : Memory.Reachable registry w.memory) {model : Model}
    (htracks : model.tracksPublicIds = true) (hbatch : 0 < batchSize) (hd : d.OnlyFails)
    (hfresh : ∀ x ∈ steps registry moments d (backfillModel false batchSize model).run ⟨w, []⟩,
      fresh x.1 x.2.world = true) :
    ∃ report w', run registry moments d (backfillModel false batchSize model) w = (.ok report, w') ∧
      Memory.Reachable registry w'.memory ∧
      BackfillAccounts d model.entityType batchSize
        (steps registry moments d (backfillModel false batchSize model).run ⟨w, []⟩) w.memory report w'.memory := by
  have hmodel := backfillModel_eq htracks hbatch false
  have hroom : keysBeyond none < keySpace + 1 := Nat.lt_succ_self _
  have hcovers := covers_backfillPages registry moments hd hbatch (r := .start model.entityType false) rfl hroom
    (s := ⟨w, []⟩) hw.regular
  rw [hmodel] at hfresh ⊢
  obtain ⟨report, s', hrun, hcovered⟩ := hcovers hfresh
  refine ⟨report, s'.world, ?_, hcovered.reachable hw, ?_⟩
  · rw [run_eq, hrun]
  · refine Covered.accounts hbatch hw.regular ?_
    rw [← Memory.keysFrom_none]
    exact hcovered

end Disturbed

/-- **Whichever calls fail, the accounts of a backfill are in order, and so are those of a later run**, whatever its
batches and its failures. If no call of that run fails, all rows have an entry in the end. -/
theorem backfill_accounts (moments : Nat → Moment) {w : World} (hw : Memory.Reachable registry w.memory) {model : Model}
    (htracks : model.tracksPublicIds = true) (hbatch : 0 < batchSize) (hd : d.OnlyFails)
    (hfresh : ∀ x ∈ Disturbed.steps registry moments d (backfillModel false batchSize model).run ⟨w, []⟩,
      fresh x.1 x.2.world = true) :
    ∃ report w', Disturbed.run registry moments d (backfillModel false batchSize model) w = (.ok report, w') ∧
      Memory.Reachable registry w'.memory ∧
      BackfillAccounts d model.entityType batchSize
        (Disturbed.steps registry moments d (backfillModel false batchSize model).run ⟨w, []⟩) w.memory report
        w'.memory ∧
      ∀ (moments' : Nat → Moment) (d' : Disturbance) (batchSize' : Nat), d'.OnlyFails → 0 < batchSize' →
        (∀ x ∈ Disturbed.steps registry moments' d' (backfillModel false batchSize' model).run ⟨w', []⟩,
          fresh x.1 x.2.world = true) →
        ∃ report' w'', Disturbed.run registry moments' d' (backfillModel false batchSize' model) w' =
            (.ok report', w'') ∧
          BackfillAccounts d' model.entityType batchSize'
            (Disturbed.steps registry moments' d' (backfillModel false batchSize' model).run ⟨w', []⟩) w'.memory
            report' w''.memory := by
  obtain ⟨report, w', hrun, hw', haccounts⟩ := Disturbed.exists_backfillModel hw htracks hbatch hd hfresh
  refine ⟨report, w', hrun, hw', haccounts, fun moments' d' batchSize' hd' hbatch' hfresh' => ?_⟩
  obtain ⟨report', w'', hrun', -, haccounts'⟩ := Disturbed.exists_backfillModel hw' htracks hbatch' hd' hfresh'
  exact ⟨report', w'', hrun', haccounts'⟩

/-- The first insert fails. -/
def Disturbance.firstInsert : Disturbance := ⟨[(.insertEntries, 0)], [], []⟩

theorem Disturbance.onlyFails_firstInsert : Disturbance.firstInsert.OnlyFails := ⟨rfl, rfl, by simp [firstInsert]⟩

/-- In batches of one, the first widget is left out at first; a second run makes up for it. -/
theorem backfill_accounts_widgets :
    ∃ report w' report' w'', Disturbed.run .widgets .counted .firstInsert (backfillModel false 1 Registry.widget)
        World.loaded = (.ok report, w') ∧
      Disturbed.run .widgets .counted .none (backfillModel false 1 Registry.widget) w' = (.ok report', w'') ∧
      report.failures.map BatchFailure.keys = [[1]] ∧ report'.failures = [] ∧
      ∃ e, w''.memory.mappings.entriesOf "shop.widget" 1 = [e] := by
  have hids : (Disturbed.steps .widgets .counted .firstInsert (backfillModel false 1 Registry.widget).run
      ⟨World.loaded, []⟩).all (fun x => fresh x.1 x.2.world) = true := by
    decide +kernel
  obtain ⟨report, w', hrun, -, haccounts, hlater⟩ := backfill_accounts .counted Memory.reachable_loaded
    (show Registry.widget.tracksPublicIds = true from rfl) Nat.one_pos Disturbance.onlyFails_firstInsert
    (List.all_eq_true.1 hids)
  obtain rfl : (Disturbed.run .widgets .counted .firstInsert (backfillModel false 1 Registry.widget)
    World.loaded).2 = w' := congrArg Prod.snd hrun
  have hids' : (Disturbed.steps .widgets .counted .none (backfillModel false 1 Registry.widget).run
      ⟨(Disturbed.run .widgets .counted .firstInsert (backfillModel false 1 Registry.widget) World.loaded).2, []⟩).all
        (fun x => fresh x.1 x.2.world) = true := by
    decide +kernel
  obtain ⟨report', w'', hrun', haccounts'⟩ := hlater .counted .none 1 Disturbance.onlyFails_none Nat.one_pos
    (List.all_eq_true.1 hids')
  obtain ⟨hfailures, -, hmapped⟩ := haccounts'.recovered fun x _ => Disturbance.fails_none x.1 x.2
  refine ⟨report, _, report', w'', hrun, hrun', ?_, hfailures, hmapped 1 ?_⟩
  · rw [map_keys_of_forall₂ haccounts.failures]
    decide +kernel
  · rw [Memory.table, haccounts.tables]
    decide

end RowIdentity
