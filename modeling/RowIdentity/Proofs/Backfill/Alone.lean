import RowIdentity.Proofs.Disturbance.Coverage

/-!
# A backfill without other clients

* `Memory.Gains` — a state that differs by new entries, one for each of some rows;
* `World.Fresh` — a run whose new entries come under unused ids;
* `BackfillReport.after` — a report after some more keys, as no call fails and no row comes or goes;
* `World.exists_backfillBatch_alone` — one batch, written or not;
* `World.exists_backfillPages_alone` — by induction on the pages, **a dry run reports what a real run does**;
* `World.exists_backfillModel_alone` — a model, from its first key on.
-/

namespace RowIdentity

variable {registry : Registry} {moments : Nat → Moment} {m m' : Memory} {w : World} {ty : String}
  {cursor : Option Int64} {batchSize : Nat} {keys pks : List Int64}

/-! ## States that gain entries -/

namespace MappingTable.Fits

variable {t : MappingTable} {es : List MappingEntry}

/-- The rows of the entries have none at the start. -/
theorem idOf?_eq_none (h : t.Fits es) {e : MappingEntry} (he : e ∈ es) : t.idOf? e.entityType e.rowKey = none := by
  induction es generalizing t with
  | nil => cases he
  | cons e₀ es ih =>
    rcases List.mem_cons.1 he with rfl | he
    · exact h.1
    · have hlater := ih h.2.2 he
      rw [idOf?_add] at hlater
      split at hlater
      · cases hlater
      · exact hlater

/-- The entries are those of different rows. -/
theorem nodup_key (h : t.Fits es) : (es.map MappingEntry.key).Nodup := by
  induction es generalizing t with
  | nil => exact List.nodup_nil
  | cons e es ih =>
    refine List.nodup_cons.2 ⟨fun hmem => ?_, ih h.2.2⟩
    obtain ⟨e', he', heq⟩ := List.mem_map.1 hmem
    have hnone := h.2.2.idOf?_eq_none he'
    have hsame : (e.entityType, e.rowKey) = (e'.entityType, e'.rowKey) := heq.symm
    rw [idOf?_add, if_pos hsame] at hnone
    cases hnone

end MappingTable.Fits

namespace Memory

/-- The state differs by new entries, one for each of some rows of an entity type. -/
def Gains (ty : String) (pks : List Int64) (m m' : Memory) : Prop :=
  ∃ es : List MappingEntry, es.map MappingEntry.key = pks.map (ty, ·) ∧ m.mappings.Fits es ∧
    m' = { m with mappings := m.mappings.addAll es }

namespace Gains

/-- The entries are those of the given rows. -/
theorem of_mem_keys {es : List MappingEntry} (hes : es.map MappingEntry.key = pks.map (ty, ·)) {ty' : String}
    {pk : Int64} (hkey : (ty', pk) ∈ es.map MappingEntry.key) : ty' = ty ∧ pk ∈ pks := by
  rw [hes] at hkey
  obtain ⟨k, hk, heq⟩ := List.mem_map.1 hkey
  obtain ⟨rfl, rfl⟩ := Prod.mk.inj heq
  exact ⟨rfl, hk⟩

theorem nil : Gains ty [] m m := ⟨[], rfl, trivial, rfl⟩

theorem eq_of_nil (h : Gains ty [] m m') : m' = m := by
  obtain ⟨es, hes, -, rfl⟩ := h
  obtain rfl : es = [] := List.map_eq_nil_iff.1 hes
  rfl

theorem append {m'' : Memory} (h : Gains ty keys m m') (h' : Gains ty pks m' m'') :
    Gains ty (keys ++ pks) m m'' := by
  obtain ⟨es, hes, hfits, rfl⟩ := h
  obtain ⟨es', hes', hfits', rfl⟩ := h'
  refine ⟨es ++ es', by rw [List.map_append, hes, hes', List.map_append], hfits.append hfits', ?_⟩
  rw [MappingTable.addAll_append]

theorem tables (h : Gains ty pks m m') : m'.tables = m.tables := by
  obtain ⟨es, -, -, rfl⟩ := h
  rfl

theorem sequences (h : Gains ty pks m m') : m'.sequences = m.sequences := by
  obtain ⟨es, -, -, rfl⟩ := h
  rfl

theorem row? (h : Gains ty pks m m') : m'.row? = m.row? := row?_congr h.tables

theorem table (h : Gains ty pks m m') (ty' : String) : m'.table ty' = m.table ty' := by
  simp only [Memory.table, h.tables]

theorem keysFrom (h : Gains ty pks m m') (ty' : String) (cursor : Option Int64) :
    m'.keysFrom ty' cursor = m.keysFrom ty' cursor := by
  simp only [Memory.keysFrom, h.table]

theorem regular (h : Gains ty pks m m') (hm : m.Regular) : m'.Regular := by
  obtain ⟨es, -, hfits, rfl⟩ := h
  exact hm.of_parts rfl (hm.coherent.addAll hfits)

/-- The rows are different ones. -/
theorem nodup (h : Gains ty pks m m') : pks.Nodup := by
  obtain ⟨es, hes, hfits, -⟩ := h
  have hnodup := hfits.nodup_key
  rw [hes] at hnodup
  exact hnodup.of_map _

/-- None of the rows had an entry. -/
theorem idOf?_eq_none (h : Gains ty pks m m') {pk : Int64} (hpk : pk ∈ pks) : m.mappings.idOf? ty pk = none := by
  obtain ⟨es, hes, hfits, -⟩ := h
  have hmem : (ty, pk) ∈ es.map MappingEntry.key := hes ▸ List.mem_map_of_mem hpk
  obtain ⟨e, he, heq⟩ := List.mem_map.1 hmem
  obtain ⟨rfl, rfl⟩ := Prod.mk.inj heq
  exact hfits.idOf?_eq_none he

/-- The other rows have the public ids they had. -/
theorem idOf?_eq (h : Gains ty pks m m') {ty' : String} {pk : Int64} (hpk : ty' = ty → pk ∉ pks) :
    m'.mappings.idOf? ty' pk = m.mappings.idOf? ty' pk := by
  obtain ⟨es, hes, -, rfl⟩ := h
  refine MappingTable.idOf?_addAll_of_not_mem fun hkey => ?_
  obtain ⟨hty, hmem⟩ := of_mem_keys hes hkey
  exact hpk hty hmem

/-- The other rows have the entries they had. -/
theorem entriesOf_eq (h : Gains ty pks m m') (hm : m.Regular) {ty' : String} {pk : Int64} (hpk : ty' = ty → pk ∉ pks) :
    m'.mappings.entriesOf ty' pk = m.mappings.entriesOf ty' pk := by
  obtain ⟨es, hes, hfits, rfl⟩ := h
  refine hfits.entriesOf_addAll hm.coherent fun hkey => ?_
  obtain ⟨hty, hmem⟩ := of_mem_keys hes hkey
  exact hpk hty hmem

theorem isSome_idOf? (h : Gains ty pks m m') {pk : Int64} (hpk : pk ∈ pks) :
    (m'.mappings.idOf? ty pk).isSome = true := by
  obtain ⟨es, hes, hfits, rfl⟩ := h
  exact hfits.isSome_idOf?_addAll (hes ▸ List.mem_map_of_mem hpk)

/-- The mapped rows are those that were mapped and those that have gained an entry. -/
theorem isSome_idOf?_iff (h : Gains ty pks m m') (ty' : String) (pk : Int64) :
    (m'.mappings.idOf? ty' pk).isSome = true ↔
      (m.mappings.idOf? ty' pk).isSome = true ∨ ty' = ty ∧ pk ∈ pks := by
  by_cases hpk : ty' = ty ∧ pk ∈ pks
  · obtain ⟨rfl, hmem⟩ := hpk
    simp [h.isSome_idOf? hmem, hmem]
  · rw [h.idOf?_eq fun hty hmem => hpk ⟨hty, hmem⟩]
    simp [hpk]

/-- Of other rows the same ones are missing. -/
theorem missing_eq (h : Gains ty pks m m') {ty' : String} (hother : ty' = ty → pks.Disjoint keys) :
    m'.missing ty' keys = m.missing ty' keys := by
  rw [Memory.missing_eq_filter, Memory.missing_eq_filter]
  refine List.filter_congr fun pk hpk => ?_
  rw [h.idOf?_eq fun hty hmem => hother hty hmem hpk]

theorem mapped_eq (h : Gains ty pks m m') {ty' : String} (hother : ty' = ty → pks.Disjoint keys) :
    m'.mappings.mapped ty' keys = m.mappings.mapped ty' keys := by
  unfold MappingTable.mapped
  congr 1
  refine List.filter_congr fun pk hpk => ?_
  rw [h.idOf?_eq fun hty hmem => hother hty hmem hpk]

end Gains

theorem mapped_eq_filter (m : Memory) (ty : String) (hpks : pks.Nodup) :
    m.mappings.mapped ty pks = pks.filter fun pk => (m.mappings.idOf? ty pk).isSome :=
  eraseDups_of_nodup (hpks.filter _)

theorem survivors_eq_missing (hstored : ∀ pk ∈ pks, (m.row? ty pk).isSome = true) :
    m.survivors ty pks = m.missing ty pks :=
  survivors_of_stored hstored

/-- The row is stored and has no entry. -/
def lacksEntry (m : Memory) (ty : String) (pk : Int64) : Bool :=
  (m.row? ty pk).isSome && (m.mappings.idOf? ty pk).isNone

/-- The rows that a backfill gives entries to: those without one, unless the run is dry. -/
def writes (m : Memory) (dryRun : Bool) (ty : String) (pks : List Int64) : List Int64 :=
  if dryRun then [] else m.missing ty pks

theorem writes_subset (m : Memory) (dryRun : Bool) (ty : String) (pks : List Int64) : m.writes dryRun ty pks ⊆ pks := by
  cases dryRun with
  | true => exact List.nil_subset _
  | false => exact List.filter_subset_self _

theorem missing_append (m : Memory) (ty : String) (keys pks : List Int64) :
    m.missing ty (keys ++ pks) = m.missing ty keys ++ m.missing ty pks := by
  simp only [missing_eq_filter, List.filter_append]

theorem writes_append (m : Memory) (dryRun : Bool) (ty : String) (keys pks : List Int64) :
    m.writes dryRun ty (keys ++ pks) = m.writes dryRun ty keys ++ m.writes dryRun ty pks := by
  cases dryRun with
  | true => rfl
  | false => exact missing_append m ty keys pks

theorem writes_of_missing_eq_nil (dryRun : Bool) (h : m.missing ty pks = []) : m.writes dryRun ty pks = [] := by
  cases dryRun with
  | true => rfl
  | false => exact h

theorem writes_nil (m : Memory) (dryRun : Bool) (ty : String) : m.writes dryRun ty [] = [] :=
  writes_of_missing_eq_nil dryRun rfl

theorem Gains.writes_eq (h : m.Gains ty pks m') (dryRun : Bool) (hother : pks.Disjoint keys) :
    m'.writes dryRun ty keys = m.writes dryRun ty keys := by
  simp only [writes, h.missing_eq fun _ => hother]

end Memory

/-! ## Reports -/

/-- The report after some more keys: those with an entry are counted as mapped, those without one as created. -/
def BackfillReport.after (r : BackfillReport) (m : Memory) (batchSize : Nat) (keys : List Int64) : BackfillReport :=
  { r with
    batches := r.batches + (batchesOf batchSize keys).length
    scanned := r.scanned + keys.length
    alreadyMapped := r.alreadyMapped + (m.mappings.mapped r.model keys).length
    created := r.created + (m.missing r.model keys).length }

theorem BackfillReport.after_nil (r : BackfillReport) (m : Memory) (hbatch : 0 < batchSize) :
    r.after m batchSize [] = r := by
  rw [after, batchesOf_nil hbatch]
  rfl

/-- The entries of other rows play no part. -/
theorem Memory.Gains.after_eq (h : m.Gains ty pks m') (r : BackfillReport) (batchSize : Nat)
    (hother : r.model = ty → pks.Disjoint keys) : r.after m' batchSize keys = r.after m batchSize keys := by
  simp only [BackfillReport.after, h.missing_eq hother, h.mapped_eq hother]

/-- A batch is recorded, and the rest follows. -/
theorem BackfillReport.after_record (r : BackfillReport) (m : Memory) (hbatch : 0 < batchSize) (hne : keys ≠ [])
    (hkeys : keys.Nodup) (first last : Int64) :
    (r.record first last (keys.take batchSize)
      (.ok ⟨(m.mappings.mapped r.model (keys.take batchSize)).length, 0,
        (m.missing r.model (keys.take batchSize)).length⟩)).after m batchSize (keys.drop batchSize) =
      r.after m batchSize keys := by
  have hpage := hkeys.sublist (List.take_sublist batchSize keys)
  have hrest := hkeys.sublist (List.drop_sublist batchSize keys)
  have hlength : keys.length = (keys.take batchSize).length + (keys.drop batchSize).length := by
    rw [← List.length_append, List.take_append_drop]
  have hmapped : (m.mappings.mapped r.model keys).length =
      (m.mappings.mapped r.model (keys.take batchSize)).length +
        (m.mappings.mapped r.model (keys.drop batchSize)).length := by
    rw [m.mapped_eq_filter _ hkeys, m.mapped_eq_filter _ hpage, m.mapped_eq_filter _ hrest, ← List.length_append,
      ← List.filter_append, List.take_append_drop]
  have hmissing : (m.missing r.model keys).length =
      (m.missing r.model (keys.take batchSize)).length + (m.missing r.model (keys.drop batchSize)).length := by
    rw [← List.length_append, ← Memory.missing_append, List.take_append_drop]
  have hbatches : (batchesOf batchSize keys).length = 1 + (batchesOf batchSize (keys.drop batchSize)).length := by
    rw [batchesOf_of_ne_nil hbatch hne, List.length_cons, Nat.add_comm]
  simp only [after, record, hlength, hmapped, hmissing, hbatches, Nat.add_assoc, Nat.add_zero]

/-- What a backfill of an entity type reports: the rows, of which those without an entry get one, or would. -/
def Memory.backfillReport (m : Memory) (ty : String) (batchSize : Nat) (dryRun : Bool) : BackfillReport :=
  (BackfillReport.start ty dryRun).after m batchSize (Assoc.keys (m.table ty))

namespace World

/-! ## One batch -/

/-- The ids that come with new entries in a run are unused, and none comes twice in a call. -/
def Fresh {α : Type} (registry : Registry) (moments : Nat → Moment) (p : Program Backend α) (w : World) : Prop :=
  p.Throughout (answer registry moments) (fun c w => fresh c w = true) w

section

variable {α β ε : Type}

/-- A run of two parts is fresh when both parts are. -/
theorem fresh_bind_iff (a : ExceptT ε (Program Backend) α) (f : α → ExceptT ε (Program Backend) β) (w : World) :
    w.Fresh registry moments (a >>= f).run ↔
      w.Fresh registry moments a.run ∧
        ∀ x w', exec registry moments a.run w = (.ok x, w') → w'.Fresh registry moments (f x).run :=
  Program.throughout_bind a f w

theorem fresh_lift_iff (p : Program Backend α) (w : World) :
    w.Fresh registry moments (ExceptT.lift p : ExceptT ε (Program Backend) α).run ↔ w.Fresh registry moments p := by
  have hsteps : Program.steps (answer registry moments) (ExceptT.lift p : ExceptT ε (Program Backend) α).run w =
      Program.steps (answer registry moments) p w := Program.steps_except_lift p w
  unfold Fresh Program.Throughout
  exact Iff.of_eq (congrArg (fun steps => ∀ x ∈ steps, fresh x.1 x.2 = true) hsteps)

end

/-- The entries that a batch inserts are fresh. -/
theorem Fresh.newEntries (h : w.Fresh registry moments (backfillBatch ty false pks).run)
    (hmissing : (w.memory.missing ty pks).isEmpty = false) :
    fresh (.insertEntries (newEntries moments ty (w.calls + 2) (w.memory.survivors ty pks))) w = true := by
  unfold backfillBatch at h
  have hexisting := ((fresh_bind_iff _ _ _).1 h).2 _ _ rfl
  simp only [← w.memory.missing_eq, hmissing, Bool.false_eq_true, if_false] at hexisting
  have hstamps := ((fresh_bind_iff _ _ _).1 hexisting).2 _ _ rfl
  have hinsert := ((fresh_bind_iff _ _ _).1 hstamps).2 _ _ (exec_mapM_newEntry ty _ w.tick.tick)
  exact ((fresh_bind_iff _ _ _).1 hinsert).1 _ List.mem_cons_self

variable (registry moments) in
/-- **One batch of stored rows.** Those without an entry are counted, and get one each unless the run is dry. -/
theorem exists_backfillBatch_alone {dryRun : Bool} (hpks : pks.Nodup)
    (hstored : ∀ pk ∈ pks, (w.memory.row? ty pk).isSome = true)
    (hfresh : dryRun = false → w.Fresh registry moments (backfillBatch ty false pks).run) :
    ∃ w', exec registry moments (backfillBatch ty dryRun pks).run w =
        (.ok ⟨(w.memory.mappings.mapped ty pks).length, 0, (w.memory.missing ty pks).length⟩, w') ∧
      w.memory.Gains ty (w.memory.writes dryRun ty pks) w'.memory := by
  have hsurvivors := Memory.survivors_eq_missing hstored
  rw [exec_backfillBatch]
  cases hnone : (w.memory.missing ty pks).isEmpty with
  | true =>
    have hnil := List.isEmpty_iff.1 hnone
    refine ⟨w.tick, by rw [hnil]; rfl, ?_⟩
    rw [Memory.writes_of_missing_eq_nil dryRun hnil]
    exact .nil
  | false =>
    cases dryRun with
    | true =>
      refine ⟨w.tick.tick, ?_, .nil⟩
      simp [hsurvivors]
    | false =>
      have hids := (hfresh rfl).newEntries hnone
      rw [hsurvivors] at hids
      have hfits := Disturbed.fits_of_fresh hpks hids
      have hlength : (RowIdentity.newEntries moments ty (w.calls + 2) (w.memory.missing ty pks)).length =
          (w.memory.missing ty pks).length := by
        rw [← List.length_map MappingEntry.key, map_key_newEntries, List.length_map]
      simp only [hsurvivors, Memory.insertEntries_of_fits hfits, Bool.false_eq_true, if_false, Nat.sub_self, hlength]
      exact ⟨_, rfl, _, map_key_newEntries .., hfits, rfl⟩

/-! ## Page after page -/

/-- Behind the last key of a page there is the rest of the keys, and none if the page is not full. -/
theorem exists_last_of_page (hm : m.Regular) {first : Int64} {rest : List Int64}
    (hpage : (m.keysFrom ty cursor).take batchSize = first :: rest) :
    ∃ last, (first :: rest).getLast? = some last ∧ m.keysFrom ty (some last) = (m.keysFrom ty cursor).drop batchSize ∧
      keysBeyond (some last) < keysBeyond cursor ∧
      ((first :: rest).length < batchSize → m.keysFrom ty (some last) = []) := by
  obtain ⟨last, hlast⟩ : ∃ last, (first :: rest).getLast? = some last := ⟨_, List.getLast?_cons⟩
  have hmem : last ∈ m.keysFrom ty cursor := List.mem_of_mem_take (hpage ▸ List.mem_of_getLast? hlast)
  have hbeyond := hm.keysFrom_some (hpage ▸ hlast)
  refine ⟨last, hlast, hbeyond, keysBeyond_lt (List.mem_filter.1 hmem).2, fun hshort => ?_⟩
  have hlength := congrArg List.length hpage
  rw [List.length_take] at hlength
  rw [hbeyond]
  exact List.drop_eq_nil_of_le (by omega)

theorem run_keys (ty : String) (cursor : Option Int64) (limit : Nat) (w : World) :
    run registry moments (liftM (Store.keys ty cursor limit)) w =
      (.ok ((w.memory.keysFrom ty cursor).take limit), w.tick) := rfl

variable (registry moments) in
/-- **The keys from a cursor on.** By induction on the number of pages, which is greater than that of the keys beyond
the cursor: the report is that of the state at the start, and the rows without an entry get one unless the run is
dry. -/
theorem exists_backfillPages_alone (hbatch : 0 < batchSize) {pages : Nat} {r : BackfillReport}
    (hroom : keysBeyond cursor < pages) (hw : w.memory.Regular)
    (hfresh : r.dryRun = false → w.Fresh registry moments (backfillPages batchSize pages cursor r).run) :
    ∃ w', run registry moments (backfillPages batchSize pages cursor r) w =
        (.ok (r.after w.memory batchSize (w.memory.keysFrom r.model cursor)), w') ∧
      w.memory.Gains r.model (w.memory.writes r.dryRun r.model (w.memory.keysFrom r.model cursor)) w'.memory := by
  induction pages generalizing cursor r w with
  | zero => exact absurd hroom (Nat.not_lt_zero _)
  | succ pages ih =>
    have hnodup := hw.nodup_keysFrom r.model cursor
    unfold backfillPages at hfresh ⊢
    rw [run_bind, run_keys]
    replace hfresh := fun hdry => ((fresh_bind_iff _ _ _).1 (hfresh hdry)).2 _ _ (run_keys r.model cursor batchSize w)
    cases hpage : (w.memory.keysFrom r.model cursor).take batchSize with
    | nil =>
      have hnil := (List.take_eq_nil_iff.1 hpage).resolve_left (Nat.ne_of_gt hbatch)
      refine ⟨w.tick, ?_, ?_⟩
      · rw [hnil, BackfillReport.after_nil r w.memory hbatch]
        rfl
      · rw [hnil, Memory.writes_nil]
        exact .nil
    | cons first rest =>
      have hmem : ∀ pk ∈ first :: rest, pk ∈ w.memory.keysFrom r.model cursor := fun pk hpk =>
        List.mem_of_mem_take (hpage ▸ hpk)
      have hne := List.ne_nil_of_mem (hmem first List.mem_cons_self)
      obtain ⟨last, hlast, hbeyond, hlt, hend⟩ := exists_last_of_page hw hpage
      have hsplit : w.memory.keysFrom r.model cursor = (first :: rest) ++ w.memory.keysFrom r.model (some last) := by
        rw [hbeyond, ← hpage, List.take_append_drop]
      have hafter := r.after_record w.memory hbatch hne hnodup first last
      rw [hpage, ← hbeyond] at hafter
      rw [hsplit] at hnodup
      -- the page has other rows than the rest of the keys, so what it writes does not change their counts
      have hdisj := List.disjoint_of_subset_left (w.memory.writes_subset r.dryRun r.model (first :: rest))
        (List.disjoint_of_nodup_append hnodup)
      simp only [hpage, List.head?_cons, hlast] at hfresh ⊢
      replace hfresh := fun hdry => (fresh_bind_iff _ _ _).1 (hfresh hdry)
      obtain ⟨w₁, hrun, hgains⟩ := exists_backfillBatch_alone registry moments (w := w.tick)
        (List.nodup_append.1 hnodup).1 (fun pk hpk => Memory.isSome_row?_of_mem_keysFrom (hmem pk hpk))
        fun hdry => hdry ▸ (fresh_lift_iff _ _).1 (hfresh hdry).1
      have hlift : run registry moments (ExceptT.lift (backfillBatch r.model r.dryRun (first :: rest)).run) w.tick =
          _ := run_lift _ _
      rw [hrun] at hlift
      rw [run_bind, hlift, ← hafter, hsplit, Memory.writes_append]
      dsimp only [memory_tick] at hgains hlift ⊢
      -- from here on the report is one of the same model and the same kind of run
      generalize hr₁ : r.record first last (first :: rest)
        (.ok ⟨(w.memory.mappings.mapped r.model (first :: rest)).length, 0,
          (w.memory.missing r.model (first :: rest)).length⟩) = r₁
      have hmodel : r₁.model = r.model := hr₁ ▸ rfl
      have hdry₁ : r₁.dryRun = r.dryRun := hr₁ ▸ rfl
      split
      next hshort =>
        refine ⟨w₁, ?_, ?_⟩
        · rw [hend hshort, BackfillReport.after_nil _ _ hbatch]
          rfl
        · rw [hend hshort, Memory.writes_nil, List.append_nil]
          exact hgains
      next hfull =>
        have hfresh₁ : r₁.dryRun = false →
            w₁.Fresh registry moments (backfillPages batchSize pages (some last) r₁).run := by
          intro hdry
          have hnext := (hfresh (hdry₁ ▸ hdry)).2 _ _ hlift
          rwa [if_neg hfull, hr₁] at hnext
        obtain ⟨w₂, hrun₂, hgains₂⟩ := ih (Nat.lt_of_lt_of_le hlt (Nat.le_of_lt_succ hroom)) (hgains.regular hw) hfresh₁
        rw [hmodel, hdry₁, hgains.keysFrom, hgains.writes_eq r.dryRun hdisj] at hgains₂
        rw [hmodel, hgains.keysFrom, hgains.after_eq r₁ batchSize fun _ => hdisj] at hrun₂
        exact ⟨w₂, hrun₂, hgains.append hgains₂⟩

/-! ## Models -/

variable (registry moments) in
/-- **A model, from its first key on**: the report counts the rows with and without an entry, and the latter get one
unless the run is dry. -/
theorem exists_backfillModel_alone (dryRun : Bool) {model : Model} (htracks : model.tracksPublicIds = true)
    (hbatch : 0 < batchSize) (hw : w.memory.Regular)
    (hfresh : dryRun = false → w.Fresh registry moments (backfillModel false batchSize model).run) :
    ∃ w', run registry moments (backfillModel dryRun batchSize model) w =
        (.ok (w.memory.backfillReport model.entityType batchSize dryRun), w') ∧
      w.memory.Gains model.entityType
        (w.memory.writes dryRun model.entityType (Assoc.keys (w.memory.table model.entityType))) w'.memory := by
  have hroom : keysBeyond none < keySpace + 1 := Nat.lt_succ_self _
  have hpages := exists_backfillPages_alone registry moments hbatch (r := .start model.entityType dryRun) hroom hw
  rw [← backfillModel_eq htracks hbatch, Memory.keysFrom_none] at hpages
  refine hpages fun hdry => ?_
  obtain rfl : dryRun = false := hdry
  exact hfresh rfl

variable (registry moments) in
/-- Models, one after another: each report is that of the state at the start, since the models before have other
rows. -/
theorem exists_backfillModels_alone (dryRun : Bool) {models : List Model}
    (htracks : ∀ model ∈ models, model.tracksPublicIds = true) (hnodup : (models.map (·.entityType)).Nodup)
    (hbatch : 0 < batchSize) (hw : w.memory.Regular)
    (hfresh : dryRun = false → w.Fresh registry moments (models.mapM (backfillModel false batchSize)).run) :
    ∃ w', run registry moments (models.mapM (backfillModel dryRun batchSize)) w =
        (.ok (models.map fun model => w.memory.backfillReport model.entityType batchSize dryRun), w') := by
  induction models generalizing w with
  | nil => exact ⟨w, rfl⟩
  | cons model models ih =>
    obtain ⟨hother, hnodup⟩ := List.nodup_cons.1 hnodup
    simp only [List.mapM_cons] at hfresh ⊢
    replace hfresh := fun hdry => (fresh_bind_iff _ _ _).1 (hfresh hdry)
    obtain ⟨w₁, hrun, hgains⟩ := exists_backfillModel_alone registry moments dryRun (htracks model List.mem_cons_self)
      hbatch hw fun hdry => (hfresh hdry).1
    have hrest : dryRun = false → w₁.Fresh registry moments (models.mapM (backfillModel false batchSize)).run := by
      intro hdry
      subst hdry
      exact ((fresh_bind_iff _ _ _).1 ((hfresh rfl).2 _ _ hrun)).1
    obtain ⟨w₂, hrun₂⟩ := ih (fun m hm => htracks m (List.mem_cons_of_mem _ hm)) hnodup (hgains.regular hw) hrest
    have hsame : ∀ m ∈ models, w₁.memory.backfillReport m.entityType batchSize dryRun =
        w.memory.backfillReport m.entityType batchSize dryRun := by
      intro m hm
      unfold Memory.backfillReport
      rw [hgains.table]
      exact hgains.after_eq _ _ fun hty => absurd (List.mem_map.2 ⟨m, hm, hty⟩) hother
    rw [run_bind, hrun]
    dsimp only
    rw [run_bind, hrun₂, List.map_congr_left hsame]
    exact ⟨w₂, rfl⟩

/-! ## One row -/

section Row

variable {app name : String} {model : Model} {pk : Int64} (hmodel : registry.byNames? app name = some model)
  (htracks : model.tracksPublicIds = true)

include hmodel htracks

/-- The entry that the backfill of a row inserts is fresh. -/
theorem Fresh.newEntry (h : w.Fresh registry moments (backfillRow registry false app name pk).run)
    (hrow : (w.memory.row? model.entityType pk).isSome = true)
    (hentry : w.memory.mappings.entryOf? model.entityType pk = none) :
    fresh (.insertEntries (RowIdentity.newEntries moments model.entityType (w.calls + 2) [pk])) w = true := by
  have hcheck : checkEligible model = .ok () := if_pos htracks
  have hnone : (w.memory.row? model.entityType pk).isNone = false := by simpa using hrow
  unfold backfillRow at h
  simp only [hmodel, hcheck] at h
  have hlook := ((fresh_bind_iff _ _ _).1 h).2 _ _ rfl
  replace hlook := ((fresh_bind_iff _ _ _).1 hlook).2 _ _ (run_row model.entityType pk w)
  simp only [hnone, Bool.false_eq_true, if_false] at hlook
  have hinsert := ((fresh_bind_iff _ _ _).1 hlook).2 _ _ (run_entryOf model.entityType pk w.tick)
  simp only [memory_tick, hentry, Option.isSome_none, Bool.false_eq_true, if_false] at hinsert
  replace hinsert := ((fresh_bind_iff _ _ _).1 hinsert).2 _ _ rfl
  exact ((fresh_bind_iff _ _ _).1 hinsert).1 _ List.mem_cons_self

variable (moments) in
/-- **One row** gets an entry if it is stored and has none, unless the run is dry. -/
theorem exists_backfillRow_alone (dryRun : Bool) (hw : w.memory.Regular)
    (hfresh : dryRun = false → w.Fresh registry moments (backfillRow registry false app name pk).run) :
    ∃ w', run registry moments (backfillRow registry dryRun app name pk) w =
        (.ok (w.memory.lacksEntry model.entityType pk), w') ∧
      w.memory.Gains model.entityType (if dryRun then [] else [pk].filter (w.memory.lacksEntry model.entityType))
        w'.memory := by
  have hid := hw.coherent.idOf?_eq model.entityType pk
  rw [run_backfillRow hmodel htracks]
  cases hrow : w.memory.row? model.entityType pk with
  | none =>
    have hlacks : w.memory.lacksEntry model.entityType pk = false := by simp [Memory.lacksEntry, hrow]
    refine ⟨w.tick, by rw [hlacks]; rfl, ?_⟩
    rw [List.filter_singleton, hlacks]
    simpa using Memory.Gains.nil
  | some r =>
    cases hentry : w.memory.mappings.entryOf? model.entityType pk with
    | some e =>
      have hlacks : w.memory.lacksEntry model.entityType pk = false := by simp [Memory.lacksEntry, hid, hentry]
      refine ⟨w.tick.tick, by rw [hlacks]; rfl, ?_⟩
      rw [List.filter_singleton, hlacks]
      simpa using Memory.Gains.nil
    | none =>
      have hlacks : w.memory.lacksEntry model.entityType pk = true := by simp [Memory.lacksEntry, hrow, hid, hentry]
      rw [List.filter_singleton, hlacks]
      cases dryRun with
      | true => exact ⟨w.tick.tick, rfl, .nil⟩
      | false =>
        have hmissing : w.memory.missing model.entityType [pk] = [pk] := by
          simp [Memory.missing_eq_filter, hid, hentry]
        have hids := Fresh.newEntry hmodel htracks (hfresh rfl) (by rw [hrow]; rfl) hentry
        rw [← hmissing] at hids
        have hfits := Disturbed.fits_of_fresh (List.nodup_singleton pk) hids
        rw [hmissing] at hfits
        simp only [Memory.insertEntries_of_fits hfits]
        exact ⟨_, rfl, _, map_key_newEntries .., hfits, rfl⟩

end Row

end World

end RowIdentity
