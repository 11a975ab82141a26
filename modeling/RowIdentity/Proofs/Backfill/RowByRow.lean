import RowIdentity.Proofs.Backfill.Alone
import RowIdentity.Proofs.Registry

/-!
# A backfill row by row

* `Memory.Gains.lacksEntry_eq` — after one row its entry is there, and the other rows are as before;
* `RowReplies`, `RowReplies.cons` — which of some keys are answered with yes: the first ones of rows without an entry;
* `World.exists_backfillRows_alone` — by induction on the keys, what they are answered and which rows gain an entry;
* `Memory.OneEntryMore` — a state with one entry more for each of some rows, and nothing else changed;
* `rowByRow_agrees` — **row by row the same rows get an entry as in batches**.
-/

namespace RowIdentity

variable {registry : Registry} {moments : Nat → Moment} {m m' : Memory} {w : World} {ty : String} {pk : Int64}
  {pks : List Int64} {replies : List Bool}

/-! ## One row after another -/

/-- After one row its entry is there, and the other rows are as before. -/
theorem Memory.Gains.lacksEntry_eq (h : m.Gains ty ([pk].filter (m.lacksEntry ty)) m') (k : Int64) :
    m'.lacksEntry ty k = (m.lacksEntry ty k && !k == pk) := by
  rw [List.filter_singleton] at h
  cases hpk : m.lacksEntry ty pk with
  | true =>
    rw [hpk] at h
    by_cases hk : k = pk
    · subst hk
      have hsome := h.isSome_idOf? List.mem_cons_self
      simp [lacksEntry, hsome]
    · have hid : m'.mappings.idOf? ty k = m.mappings.idOf? ty k :=
        h.idOf?_eq fun _ hmem => hk (List.mem_singleton.1 hmem)
      simp [lacksEntry, h.row?, hid, hk]
  | false =>
    rw [hpk] at h
    obtain rfl := h.eq_of_nil
    by_cases hk : k = pk
    · subst hk
      simp [hpk]
    · simp [hk]

/-- The keys of rows without an entry, each once: those of the first key, and those of the others after it. -/
theorem eraseDups_filter_lacksEntry_cons (hnext : ∀ k, m'.lacksEntry ty k = (m.lacksEntry ty k && !k == pk))
    (pks : List Int64) :
    ((pk :: pks).filter (m.lacksEntry ty)).eraseDups =
      [pk].filter (m.lacksEntry ty) ++ (pks.filter (m'.lacksEntry ty)).eraseDups := by
  have hrest : pks.filter (m'.lacksEntry ty) = (pks.filter (m.lacksEntry ty)).filter fun k => !k == pk := by
    rw [List.filter_filter]
    refine List.filter_congr fun k _ => ?_
    rw [hnext, Bool.and_comm]
  rw [hrest, List.filter_cons, List.filter_singleton]
  cases hpk : m.lacksEntry ty pk with
  | true => exact List.eraseDups_cons
  | false =>
    -- the first key is none of the others
    have hall : (pks.filter (m.lacksEntry ty)).filter (fun k => !k == pk) = pks.filter (m.lacksEntry ty) := by
      refine List.filter_eq_self.2 fun k hk => ?_
      have hlacks := (List.mem_filter.1 hk).2
      have hne : k ≠ pk := by
        rintro rfl
        rw [hpk] at hlacks
        cases hlacks
      simpa using hne
    rw [hall]
    simp

/-- The replies to some keys: yes to the first key of each row without an entry, and to no other. -/
structure RowReplies (m : Memory) (ty : String) (pks : List Int64) (replies : List Bool) : Prop where
  length : replies.length = pks.length
  first : ∀ i pk, pks[i]? = some pk → (replies[i]? = some true ↔ m.lacksEntry ty pk = true ∧ pk ∉ pks.take i)
  count : replies.count true = (pks.filter (m.lacksEntry ty)).eraseDups.length

theorem RowReplies.nil : RowReplies m ty [] [] where
  length := rfl
  first := fun _ _ h => nomatch h
  count := rfl

/-- One more key in front. -/
theorem RowReplies.cons (hnext : ∀ k, m'.lacksEntry ty k = (m.lacksEntry ty k && !k == pk))
    (h : RowReplies m' ty pks replies) : RowReplies m ty (pk :: pks) (m.lacksEntry ty pk :: replies) where
  length := by rw [List.length_cons, List.length_cons, h.length]
  first := by
    intro i k hk
    cases i with
    | zero =>
      obtain rfl : pk = k := Option.some.inj hk
      simp
    | succ i =>
      replace hk : pks[i]? = some k := hk
      have hfirst := h.first i k hk
      rw [hnext] at hfirst
      rw [List.getElem?_cons_succ, hfirst, List.take_succ_cons, List.mem_cons, not_or, Bool.and_eq_true, and_assoc]
      simp
  count := by
    rw [eraseDups_filter_lacksEntry_cons hnext, List.length_append, ← h.count, List.filter_singleton]
    cases m.lacksEntry ty pk with
    | true => simp [Nat.add_comm]
    | false => simp

variable (moments) in
/-- **Row by row**: the first key of each row without an entry is answered with yes, and the row gains one. -/
theorem World.exists_backfillRows_alone {app name : String} {model : Model}
    (hmodel : registry.byNames? app name = some model) (htracks : model.tracksPublicIds = true)
    (hw : w.memory.Regular) (hfresh : w.Fresh registry moments (pks.mapM (backfillRow registry false app name)).run) :
    ∃ replies w', run registry moments (pks.mapM (backfillRow registry false app name)) w = (.ok replies, w') ∧
      RowReplies w.memory model.entityType pks replies ∧
      w.memory.Gains model.entityType (pks.filter (w.memory.lacksEntry model.entityType)).eraseDups w'.memory := by
  induction pks generalizing w with
  | nil => exact ⟨[], w, rfl, .nil, .nil⟩
  | cons pk pks ih =>
    rw [List.mapM_cons] at hfresh ⊢
    obtain ⟨hfirst, hrest⟩ := (fresh_bind_iff _ _ _).1 hfresh
    obtain ⟨w₁, hrun, hgains⟩ := exists_backfillRow_alone moments hmodel htracks false hw fun _ => hfirst
    replace hrest := ((fresh_bind_iff _ _ _).1 (hrest _ _ hrun)).1
    obtain ⟨replies, w₂, hrun₂, hreplies, hgains₂⟩ := ih (hgains.regular hw) hrest
    have hnext := Memory.Gains.lacksEntry_eq hgains
    refine ⟨_, w₂, ?_, hreplies.cons hnext, ?_⟩
    · rw [run_bind, hrun]
      dsimp only
      rw [run_bind, hrun₂]
      rfl
    · rw [eraseDups_filter_lacksEntry_cons hnext]
      exact hgains.append hgains₂

/-! ## The state afterwards -/

/-- The state with one entry more for each of some rows that had none, and nothing else changed. -/
structure Memory.OneEntryMore (ty : String) (gets : Int64 → Prop) (m m' : Memory) : Prop where
  before : ∀ pk, gets pk → m.mappings.entriesOf ty pk = []
  after : ∀ pk, gets pk → ∃ e, m'.mappings.entriesOf ty pk = [e]
  kept : ∀ ty' pk, ¬ (ty' = ty ∧ gets pk) → m'.mappings.entriesOf ty' pk = m.mappings.entriesOf ty' pk
  tables : m'.tables = m.tables
  sequences : m'.sequences = m.sequences

theorem MappingTable.Coherent.entriesOf_eq_nil {t : MappingTable} (ht : t.Coherent) (hid : t.idOf? ty pk = none) :
    t.entriesOf ty pk = [] := by
  rw [ht.entriesOf_eq, MappingTable.entryOf?, hid]
  rfl

theorem Memory.Gains.oneEntryMore (hm : m.Regular) {gets : Int64 → Prop} (h : m.Gains ty pks m')
    (hmem : ∀ pk, pk ∈ pks ↔ gets pk) : m.OneEntryMore ty gets m' where
  before := fun pk hpk => hm.coherent.entriesOf_eq_nil (h.idOf?_eq_none ((hmem pk).2 hpk))
  after := fun pk hpk => (h.regular hm).coherent.exists_entriesOf (h.isSome_idOf? ((hmem pk).2 hpk))
  kept := fun _ pk hnot => h.entriesOf_eq hm fun hty hpk => hnot ⟨hty, (hmem pk).1 hpk⟩
  tables := h.tables
  sequences := h.sequences

/-! ## Row by row, and in batches -/

/-- The rows that a backfill of the model gives entries to. -/
theorem Memory.mem_missing_keys_iff (m : Memory) (ty : String) (pk : Int64) :
    pk ∈ m.missing ty (Assoc.keys (m.table ty)) ↔ m.lacksEntry ty pk = true := by
  rw [missing_eq_filter, List.mem_filter, mem_keys_table_iff, lacksEntry, Bool.and_eq_true]

/-- **Row by row the same rows get an entry as in batches.** The model tracks public ids, and the keys are all of its
stored ones at least, in any order, as often as may be, and with others among them. The first key of each row that is
stored and has no entry is answered with yes, and no other key is; each of these rows gets one entry, and nothing else
is changed. A backfill of the model from the same state, in batches of any size, leaves the same rows with an entry,
and counts as many entries made as there are keys that were answered with yes. -/
theorem rowByRow_agrees (moments : Nat → Moment) (hw : Memory.Reachable registry w.memory) {app name : String}
    {model : Model} (hmodel : registry.byNames? app name = some model) (htracks : model.tracksPublicIds = true)
    (hall : ∀ pk, (w.memory.row? model.entityType pk).isSome = true → pk ∈ pks)
    (hfresh : w.Fresh registry moments (pks.mapM (backfillRow registry false app name)).run) :
    ∃ replies w', World.run registry moments (pks.mapM (backfillRow registry false app name)) w = (.ok replies, w') ∧
      replies.length = pks.length ∧
      (∀ i pk, pks[i]? = some pk →
        (replies[i]? = some true ↔ w.memory.lacksEntry model.entityType pk = true ∧ pk ∉ pks.take i)) ∧
      w.memory.OneEntryMore model.entityType (fun pk => w.memory.lacksEntry model.entityType pk = true) w'.memory ∧
      ∀ (moments' : Nat → Moment) (batchSize : Nat), 0 < batchSize →
        w.Fresh registry moments' (backfillModel false batchSize model).run →
        ∃ report w'', World.run registry moments' (backfillModel false batchSize model) w = (.ok report, w'') ∧
          (∀ ty pk, (w'.memory.mappings.idOf? ty pk).isSome = (w''.memory.mappings.idOf? ty pk).isSome) ∧
          replies.count true = report.created := by
  obtain ⟨replies, w', hrun, hreplies, hgains⟩ :=
    World.exists_backfillRows_alone moments hmodel htracks hw.regular hfresh
  have hmem : ∀ pk, pk ∈ (pks.filter (w.memory.lacksEntry model.entityType)).eraseDups ↔
      w.memory.lacksEntry model.entityType pk = true := by
    intro pk
    rw [List.mem_eraseDups, List.mem_filter]
    refine ⟨fun h => h.2, fun hlacks => ⟨hall pk ?_, hlacks⟩⟩
    exact (Bool.and_eq_true_iff.1 hlacks).1
  refine ⟨replies, w', hrun, hreplies.length, hreplies.first, hgains.oneEntryMore hw.regular hmem, ?_⟩
  intro moments' batchSize hbatch hfresh'
  obtain ⟨w'', hrun', hgains'⟩ := World.exists_backfillModel_alone registry moments' false htracks hbatch
    hw.regular fun _ => hfresh'
  have hsame : ∀ pk, pk ∈ (pks.filter (w.memory.lacksEntry model.entityType)).eraseDups ↔
      pk ∈ w.memory.missing model.entityType (Assoc.keys (w.memory.table model.entityType)) := by
    intro pk
    rw [hmem, Memory.mem_missing_keys_iff]
  refine ⟨_, w'', hrun', fun ty pk => ?_, ?_⟩
  · rw [Bool.eq_iff_iff, hgains.isSome_idOf?_iff, hgains'.isSome_idOf?_iff, hsame]
    rfl
  · have hperm := (List.perm_ext_iff_of_nodup hgains.nodup hgains'.nodup).2 hsame
    rw [hreplies.count, hperm.length_eq]
    exact (Nat.zero_add _).symm

/-- Of two widgets and a key without a row, with the second widget twice, two keys are answered with yes. -/
theorem rowByRow_agrees_widgets :
    ∃ replies w' report w'',
      World.run .widgets .counted ([2, 7, 1, 2].mapM (backfillRow .widgets false "Shop" "Widget")) World.loaded =
        (.ok replies, w') ∧
      World.run .widgets .counted (backfillModel false 1 Registry.widget) World.loaded = (.ok report, w'') ∧
      replies[2]? = some true ∧ replies[3]? ≠ some true ∧ replies.count true = report.created := by
  have hstored : Assoc.keys (World.loaded.memory.table "shop.widget") = [1, 2] := by decide
  have hall : ∀ pk, (World.loaded.memory.row? "shop.widget" pk).isSome = true → pk ∈ [2, 7, 1, 2] := by
    intro pk hpk
    rw [← Memory.mem_keys_table_iff, hstored] at hpk
    grind
  have hids : World.loaded.Fresh .widgets .counted
      ([2, 7, 1, 2].mapM (backfillRow .widgets false "Shop" "Widget")).run :=
    Program.throughout_of_all (by decide +kernel)
  have hids' : World.loaded.Fresh .widgets .counted (backfillModel false 1 Registry.widget).run :=
    Program.throughout_of_all (by decide +kernel)
  obtain ⟨replies, w', hrun, -, hfirst, -, hbatches⟩ := rowByRow_agrees .counted Memory.reachable_loaded
    (show Registry.widgets.byNames? "Shop" "Widget" = some Registry.widget by decide +kernel) rfl hall hids
  obtain ⟨report, w'', hrun', -, hcount⟩ := hbatches .counted 1 Nat.one_pos hids'
  refine ⟨replies, w', report, w'', hrun, hrun', (hfirst 2 1 rfl).2 (by decide), fun h => ?_, hcount⟩
  exact ((hfirst 3 2 rfl).1 h).2 (by decide)

end RowIdentity
