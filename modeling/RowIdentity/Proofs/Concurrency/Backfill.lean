import RowIdentity.Proofs.Concurrency.Interference

/-!
# A backfill among other clients

* `Memory.Regular.mem_keys_or` — a stored key beyond the cursor is on the page, or behind a full one;
* `backfillPages_makes` — the calls of a backfill take no entries away;
* `mapped_backfillBatch` — after a batch its rows have entries, if they have been stored all along;
* `Swept`, `World.exists_backfillPages` — by induction on the pages, the keys that are scanned ascend from the cursor,
  and no row that is stored all along is left out;
* `backfill_complete_amid_others` — **whatever others do, a backfill reaches every row that is stored throughout**.
-/

namespace RowIdentity

variable {registry : Registry} {moments : Nat → Moment} {others : Others} {m : Memory} {w : World} {ty : String}
  {pk : Int64} {after cursor : Option Int64} {limit batchSize : Nat}

/-! ## Pages of keys -/

namespace Memory

theorem lt_of_mem_keys (h : pk ∈ m.keys ty after limit) : after.all (· < pk) = true :=
  (List.mem_filter.1 (List.mem_of_mem_take h)).2

theorem Regular.pairwise_keys (hm : m.Regular) (ty : String) (after : Option Int64) (limit : Nat) :
    (m.keys ty after limit).Pairwise (· < ·) :=
  (hm.ascending ty).sublist ((List.take_sublist _ _).trans List.filter_sublist)

/-- A stored key beyond the cursor is on the page, or behind all keys of a full page. -/
theorem Regular.mem_keys_or (hm : m.Regular) (hrow : (m.row? ty pk).isSome = true)
    (hafter : after.all (· < pk) = true) (limit : Nat) :
    pk ∈ m.keys ty after limit ∨
      (m.keys ty after limit).length = limit ∧ ∀ k ∈ m.keys ty after limit, k < pk := by
  have hkey := (m.mem_keys_table_iff ty pk).2 hrow
  have hmem : pk ∈ (Assoc.keys (m.table ty)).filter fun pk => after.all (· < pk) := List.mem_filter.2 ⟨hkey, hafter⟩
  have hpair := (hm.ascending ty).sublist (List.filter_sublist (p := fun pk => after.all (· < pk)))
  generalize hkeys : (Assoc.keys (m.table ty)).filter (fun pk => after.all (· < pk)) = keys at hmem hpair
  have hpage : m.keys ty after limit = keys.take limit := by
    rw [← hkeys]
    rfl
  rw [hpage]
  rw [← List.take_append_drop limit keys] at hmem hpair
  rcases List.mem_append.1 hmem with htake | hdrop
  · exact .inl htake
  · refine .inr ⟨?_, fun k hk => (List.pairwise_append.1 hpair).2.2 k hk pk hdrop⟩
    refine List.length_take_of_le (Nat.le_of_not_le fun hle => ?_)
    rw [List.drop_eq_nil_of_le hle] at hdrop
    cases hdrop

end Memory

theorem all_lt_trans {k k' : Int64} (h : cursor.all (· < k) = true) (hlt : k < k') : cursor.all (· < k') = true := by
  cases cursor with
  | none => rfl
  | some c => exact decide_eq_true (Int64.lt_trans (of_decide_eq_true h) hlt)

/-- In ascending keys the last one is the greatest. -/
theorem eq_or_lt_of_getLast? {keys : List Int64} (h : keys.Pairwise (· < ·)) {last : Int64}
    (hlast : keys.getLast? = some last) {k : Int64} (hk : k ∈ keys) : k = last ∨ k < last := by
  obtain ⟨front, rfl⟩ := List.getLast?_eq_some_iff.1 hlast
  rcases List.mem_append.1 hk with hk | hk
  · exact .inr ((List.pairwise_append.1 h).2.2 k hk last List.mem_cons_self)
  · exact .inl (List.mem_singleton.1 hk)

/-- The number of keys there may be beyond a cursor. -/
def keysBeyond : Option Int64 → Nat
  | none => keySpace
  | some k => (Int64.maxValue.toInt - k.toInt).toNat

theorem keysBeyond_lt {k : Int64} (h : cursor.all (· < k) = true) : keysBeyond (some k) < keysBeyond cursor := by
  have hle := Int64.toInt_le k
  have hge := Int64.le_toInt k
  rw [Int64.toInt_maxValue] at hle
  cases cursor with
  | none =>
    simp only [keysBeyond, keySpace, Int64.toInt_maxValue, UInt64.size]
    omega
  | some c =>
    have hlt : c.toInt < k.toInt := Int64.lt_iff_toInt_lt.1 (by simpa using h)
    simp only [keysBeyond, Int64.toInt_maxValue]
    omega

/-! ## The calls of a backfill -/

/-- The calls of one batch. -/
inductive BackendCall.OfBatch : BackendCall → Prop
  | mapped (ty : String) (pks : List Int64) : OfBatch (.mapped ty pks)
  | existing (ty : String) (pks : List Int64) : OfBatch (.existing ty pks)
  | stamp : OfBatch .stamp
  | insertEntries (es : List MappingEntry) : OfBatch (.insertEntries es)

theorem BackendCall.OfBatch.keepsEntries {c : BackendCall} (h : c.OfBatch) : c.KeepsEntries := by
  cases h with
  | mapped ty pks => exact .mapped ty pks
  | existing ty pks => exact .existing ty pks
  | stamp => exact .stamp
  | insertEntries es => exact .insertEntries es

theorem backfillBatch_makes (ty : String) (dryRun : Bool) (pks : List Int64) :
    (backfillBatch ty dryRun pks).run.Makes BackendCall.OfBatch := by
  unfold backfillBatch
  refine Program.Makes.except_bind (a := Store.mapped ty pks) ⟨.mapped ty pks, fun _ => trivial⟩ fun mapped => ?_
  dsimp only
  split
  · trivial
  · refine Program.Makes.except_bind (a := Store.existing ty _) ⟨BackendCall.OfBatch.existing ty _, fun _ => trivial⟩
      fun existing => ?_
    split
    · trivial
    · refine Program.Makes.except_bind (Program.Makes.mapM fun pk => ⟨.stamp, fun _ => trivial⟩) fun es => ?_
      exact Program.Makes.except_bind (a := Store.insertEntries es) ⟨.insertEntries es, fun _ => trivial⟩
        fun _ => trivial

theorem backfillPages_makes (batchSize pages : Nat) (cursor : Option Int64) {report : BackfillReport}
    (hdry : report.dryRun = false) :
    (backfillPages batchSize pages cursor report).run.Makes BackendCall.KeepsEntries :=
  backfillPages_makes_of_batch (fun _ => .keys _ _ _)
    (fun pks => (backfillBatch_makes _ false pks).mono fun _ => BackendCall.OfBatch.keepsEntries) _ _ rfl hdry

/-! ## One batch -/

/-- The ids of new entries are unused, and no two of them are the same. -/
def fresh : BackendCall → World → Bool
  | .insertEntries es, w =>
    (es.map (·.publicId)).Nodup && es.all fun e => (w.memory.mappings.entryById? e.publicId).isNone
  | _, _ => true

namespace World

variable (registry moments others) in
/-- The new entries of some rows. -/
theorem exists_mapM_newEntry (ty : String) (pks : List Int64) (w : World) :
    ∃ es w', w.runAmid registry moments others (pks.mapM (Store.newEntry ty)).run = (.ok es, w') ∧
      ∀ pk ∈ pks, ∃ e ∈ es, e.entityType = ty ∧ e.rowKey = pk := by
  induction pks generalizing w with
  | nil => exact ⟨[], w, rfl, nofun⟩
  | cons pk pks ih =>
    obtain ⟨es, w', hrun, hes⟩ := ih (w.answerAmid registry moments others .stamp).2
    refine ⟨⟨(moments w.calls).draw, ty, pk, (moments w.calls).now⟩ :: es, w', ?_, ?_⟩
    · have hone : w.runAmid registry moments others (Store.newEntry ty pk).run =
          (.ok ⟨(moments w.calls).draw, ty, pk, (moments w.calls).now⟩,
            (w.answerAmid registry moments others .stamp).2) := rfl
      rw [List.mapM_cons, runAmid_run_bind, hone]
      simp only [runAmid_run_bind, hrun]
      rfl
    · intro k hk
      rcases List.mem_cons.1 hk with rfl | hk
      · exact ⟨_, List.mem_cons_self, rfl, rfl⟩
      · obtain ⟨e, he, heq⟩ := hes k hk
        exact ⟨e, List.mem_cons_of_mem _ he, heq⟩

/-- A batch finds that all its rows have entries. Or, after a look at which of the others are stored, it inserts new
entries for those. -/
theorem backfillBatch_cases (hw : w.memory.Regular) (ty : String) (pks : List Int64) :
    (∀ pk ∈ pks, (w.memory.mappings.idOf? ty pk).isSome = true) ∧
        (∃ o w', w.runAmid registry moments others (backfillBatch ty false pks).run = (.ok o, w')) ∨
      ∃ missing w₁ es w₂ o,
        (.existing ty missing, w₁) ∈ w.stepsAmid registry moments others (backfillBatch ty false pks).run ∧
        (.insertEntries es, w₂) ∈ w.stepsAmid registry moments others (backfillBatch ty false pks).run ∧
        w.runAmid registry moments others (backfillBatch ty false pks).run =
          (.ok o, (w₂.answerAmid registry moments others (.insertEntries es)).2) ∧
        w₂.memory.Regular ∧
        ∀ pk ∈ pks, w.memory.mappings.idOf? ty pk = none → (w₁.memory.row? ty pk).isSome = true →
          ∃ e ∈ es, e.entityType = ty ∧ e.rowKey = pk := by
  have hmapped : w.runAmid registry moments others (Store.mapped ty pks).run =
      (.ok (w.memory.mappings.mapped ty pks), (w.answerAmid registry moments others (.mapped ty pks)).2) := rfl
  have hmissing : ∀ pk ∈ pks, w.memory.mappings.idOf? ty pk = none → pk ∈ w.memory.missing ty pks := by
    intro pk hpk hid
    simp [Memory.missing, MappingTable.mapped, hpk, hid]
  have hw₁ := regular_answerAmid registry moments others hw (.mapped ty pks)
  generalize (w.answerAmid registry moments others (.mapped ty pks)).2 = w₁ at hmapped hw₁
  unfold backfillBatch
  generalize hmissingEq : w.memory.missing ty pks = missing at hmissing
  by_cases hnone : missing.isEmpty = true
  · left
    refine ⟨fun pk hpk => Option.isSome_iff_ne_none.2 fun hid => ?_,
      ⟨(w.memory.mappings.mapped ty pks).length, 0, 0⟩, w₁, ?_⟩
    · have hmem := hmissing pk hpk hid
      rw [List.isEmpty_iff.1 hnone] at hmem
      cases hmem
    · simp only [runAmid_run_bind, hmapped, ← w.memory.missing_eq, hmissingEq, hnone, if_true]
      rfl
  · right
    have hexisting : w₁.runAmid registry moments others (Store.existing ty missing).run =
        (.ok (w₁.memory.existing ty missing), (w₁.answerAmid registry moments others (.existing ty missing)).2) := rfl
    generalize hsurvivors : missing.filter (w₁.memory.existing ty missing).contains = survivors
    obtain ⟨es, w₂, hes, hentries⟩ := exists_mapM_newEntry registry moments others ty survivors
      (w₁.answerAmid registry moments others (.existing ty missing)).2
    have hw₂ := regular_runAmid registry moments others
      (regular_answerAmid registry moments others hw₁ (.existing ty missing)) (survivors.mapM (Store.newEntry ty)).run
    rw [hes] at hw₂
    have hinsert : w₂.runAmid registry moments others (Store.insertEntries es).run =
        (.ok (w₂.memory.insertEntries es).1, (w₂.answerAmid registry moments others (.insertEntries es)).2) := rfl
    refine ⟨missing, w₁, es, w₂, ⟨(w.memory.mappings.mapped ty pks).length, missing.length - survivors.length,
      (w₂.memory.insertEntries es).1⟩, ?_, ?_, ?_, hw₂, fun pk hpk hid hrow => hentries pk ?_⟩
    · simp only [stepsAmid_run_bind, hmapped, ← w.memory.missing_eq, hmissingEq, hnone, Bool.false_eq_true, if_false]
      exact List.mem_append_right _ (List.mem_append_left _ List.mem_cons_self)
    · simp only [stepsAmid_run_bind, hmapped, ← w.memory.missing_eq, hmissingEq, hnone, Bool.false_eq_true, if_false,
        hexisting, hsurvivors, hes]
      exact List.mem_append_right _ (List.mem_append_right _ (List.mem_append_right _
        (List.mem_append_left _ List.mem_cons_self)))
    · simp only [runAmid_run_bind, hmapped, ← w.memory.missing_eq, hmissingEq, hnone, Bool.false_eq_true, if_false,
        hexisting, hsurvivors, hes, hinsert]
      rfl
    · rw [← hsurvivors]
      simp [Memory.existing, hmissing pk hpk hid, hrow]

/-- **After a batch its rows have entries**, if they have been stored all along. -/
theorem mapped_backfillBatch (hw : w.memory.Regular) {pks : List Int64} (hpk : pk ∈ pks)
    (hstored : ∀ x ∈ w.stepsAmid registry moments others (backfillBatch ty false pks).run,
      Stored registry moments others ty pk x.1 x.2)
    (hfresh : ∀ x ∈ w.stepsAmid registry moments others (backfillBatch ty false pks).run, fresh x.1 x.2 = true) :
    ((w.runAmid registry moments others (backfillBatch ty false pks).run).2.memory.mappings.idOf? ty pk).isSome =
      true := by
  have hkeeps := (backfillBatch_makes ty false pks).mono fun _ => BackendCall.OfBatch.keepsEntries
  have hkept := mapped_runAmid hw hkeeps hstored
  cases hid : w.memory.mappings.idOf? ty pk with
  | some u => exact hkept (by rw [hid]; rfl)
  | none =>
    rcases backfillBatch_cases hw ty pks with ⟨hall, -⟩ | ⟨missing, w₁, es, w₂, o, hlook, hinsert, hrun, hw₂, hentries⟩
    · exact hkept (hall pk hpk)
    · obtain ⟨e, he, rfl, rfl⟩ := hentries pk hpk hid (hstored _ hlook _ List.mem_cons_self)
      obtain ⟨hnodup, hunused⟩ := Bool.and_eq_true_iff.1 (hfresh _ hinsert)
      rw [hrun]
      refine mapped_answerAmid hw₂ (hstored _ hinsert) ?_
      change ((w₂.memory.insertEntries es).2.mappings.idOf? e.entityType e.rowKey).isSome = true
      rw [Memory.insertEntries_snd]
      refine MappingTable.isSome_idOf?_insertAll (of_decide_eq_true hnodup) (fun e' he' => ?_) he
      exact Option.isNone_iff_eq_none.1 (List.all_eq_true.1 hunused e' he')

variable (registry moments others) in
theorem exists_backfillBatch (hw : w.memory.Regular) (ty : String) (pks : List Int64) :
    ∃ o w', w.runAmid registry moments others (backfillBatch ty false pks).run = (.ok o, w') := by
  rcases backfillBatch_cases hw ty pks with ⟨-, hrun⟩ | ⟨_, _, _, _, o, -, -, hrun, -⟩
  · exact hrun
  · exact ⟨o, _, hrun⟩

end World

/-! ## Page after page -/

/-- The keys in the reply to a call that lists keys. -/
def BackendCall.scanned : (c : BackendCall) → c.Reply → List Int64
  | .keys .., .ok pks => pks
  | _, _ => []

/-- The keys that some calls scan. -/
def scannedKeys (registry : Registry) (moments : Nat → Moment) (steps : List (BackendCall × World)) : List Int64 :=
  steps.flatMap fun x => x.1.scanned (x.2.answer registry moments x.1).1

theorem scannedKeys_append (steps steps' : List (BackendCall × World)) :
    scannedKeys registry moments (steps ++ steps') =
      scannedKeys registry moments steps ++ scannedKeys registry moments steps' :=
  List.flatMap_append

variable (registry moments others) in
/-- A batch scans no keys. -/
theorem scannedKeys_backfillBatch (ty : String) (pks : List Int64) (w : World) :
    scannedKeys registry moments (w.stepsAmid registry moments others (backfillBatch ty false pks).run) = [] := by
  refine List.flatMap_eq_nil_iff.2 fun x hx => ?_
  have hcall := (backfillBatch_makes ty false pks).throughout w x hx
  obtain ⟨c, w'⟩ := x
  cases hcall with
  | mapped ty pks => rfl
  | existing ty pks => rfl
  | stamp => rfl
  | insertEntries es => rfl

/-- What some calls have done from a cursor on: they have scanned keys in ascending order, and among them the key of
every row that has been stored all along, which has an entry now. -/
structure Swept (registry : Registry) (moments : Nat → Moment) (others : Others) (ty : String) (cursor : Option Int64)
    (steps : List (BackendCall × World)) (m : Memory) : Prop where
  ascending : (scannedKeys registry moments steps).Pairwise (· < ·)
  beyond : ∀ k ∈ scannedKeys registry moments steps, cursor.all (· < k) = true
  complete : ∀ pk, cursor.all (· < pk) = true → (∀ x ∈ steps, Stored registry moments others ty pk x.1 x.2) →
    (∀ x ∈ steps, fresh x.1 x.2 = true) →
      pk ∈ scannedKeys registry moments steps ∧ (m.mappings.idOf? ty pk).isSome = true

/-- What the calls of one page have done: they have scanned its keys, on which there is every row that has been stored
all along unless the page is full, and its rows have entries if they have been stored all along. -/
structure Paged (registry : Registry) (moments : Nat → Moment) (others : Others) (ty : String) (cursor : Option Int64)
    (limit : Nat) (page : List Int64) (steps : List (BackendCall × World)) (m : Memory) : Prop where
  scanned : scannedKeys registry moments steps = page
  ascending : page.Pairwise (· < ·)
  beyond : ∀ k ∈ page, cursor.all (· < k) = true
  reach : ∀ pk, cursor.all (· < pk) = true → (∀ x ∈ steps, Stored registry moments others ty pk x.1 x.2) →
    pk ∈ page ∨ page.length = limit ∧ ∀ k ∈ page, k < pk
  mapped : ∀ pk ∈ page, (∀ x ∈ steps, Stored registry moments others ty pk x.1 x.2) →
    (∀ x ∈ steps, fresh x.1 x.2 = true) → (m.mappings.idOf? ty pk).isSome = true

/-- The keys are listed, and what follows gives them entries. -/
theorem Paged.of_keys (hw : w.memory.Regular) {steps : List (BackendCall × World)}
    (hquiet : scannedKeys registry moments steps = [])
    (hmapped : ∀ pk ∈ w.memory.keys ty cursor limit,
      (∀ x ∈ steps, Stored registry moments others ty pk x.1 x.2) → (∀ x ∈ steps, fresh x.1 x.2 = true) →
        (m.mappings.idOf? ty pk).isSome = true) :
    Paged registry moments others ty cursor limit (w.memory.keys ty cursor limit)
      ((.keys ty cursor limit, w) :: steps) m where
  scanned := by
    change w.memory.keys ty cursor limit ++ scannedKeys registry moments steps = _
    rw [hquiet, List.append_nil]
  ascending := hw.pairwise_keys ty cursor limit
  beyond := fun _ => Memory.lt_of_mem_keys
  reach := fun pk hafter hstored =>
    hw.mem_keys_or (hstored _ List.mem_cons_self _ List.mem_cons_self) hafter limit
  mapped := fun pk hpk hstored hfresh =>
    hmapped pk hpk (fun x hx => hstored x (List.mem_cons_of_mem _ hx)) fun x hx => hfresh x (List.mem_cons_of_mem _ hx)

variable {page : List Int64} {steps steps' : List (BackendCall × World)} {m' : Memory}

/-- After a page that is not full nothing is left. -/
theorem Paged.swept (h : Paged registry moments others ty cursor limit page steps m) (hshort : page.length ≠ limit) :
    Swept registry moments others ty cursor steps m := by
  refine ⟨h.scanned ▸ h.ascending, h.scanned ▸ h.beyond, fun pk hafter hstored hfresh => ?_⟩
  have hpk := (h.reach pk hafter hstored).resolve_right fun hfull => hshort hfull.1
  exact ⟨h.scanned ▸ hpk, h.mapped pk hpk hstored hfresh⟩

/-- After any page the rest is found beyond its last key. -/
theorem Paged.swept_append (h : Paged registry moments others ty cursor limit page steps m) {last : Int64}
    (hlast : page.getLast? = some last) (hrest : Swept registry moments others ty (some last) steps' m')
    (hkept : ∀ pk, (∀ x ∈ steps', Stored registry moments others ty pk x.1 x.2) →
      (m.mappings.idOf? ty pk).isSome = true → (m'.mappings.idOf? ty pk).isSome = true) :
    Swept registry moments others ty cursor (steps ++ steps') m' := by
  have hmem : last ∈ page := List.mem_of_getLast? hlast
  have hafter : ∀ k ∈ scannedKeys registry moments steps', last < k := fun k hk => of_decide_eq_true (hrest.beyond k hk)
  refine ⟨?_, ?_, fun pk hbeyond hstored hfresh => ?_⟩
  · rw [scannedKeys_append, h.scanned]
    refine List.pairwise_append.2 ⟨h.ascending, hrest.ascending, fun a ha b hb => ?_⟩
    rcases eq_or_lt_of_getLast? h.ascending hlast ha with rfl | hlt
    · exact hafter b hb
    · exact Int64.lt_trans hlt (hafter b hb)
  · rw [scannedKeys_append, h.scanned]
    intro k hk
    rcases List.mem_append.1 hk with hk | hk
    · exact h.beyond k hk
    · exact all_lt_trans (h.beyond last hmem) (hafter k hk)
  · have hstored₁ := fun x hx => hstored x (List.mem_append_left steps' hx)
    have hstored₂ := fun x hx => hstored x (List.mem_append_right steps hx)
    rw [scannedKeys_append, h.scanned]
    rcases h.reach pk hbeyond hstored₁ with hpk | ⟨-, hlt⟩
    · have hmapped := h.mapped pk hpk hstored₁ fun x hx => hfresh x (List.mem_append_left steps' hx)
      exact ⟨List.mem_append_left _ hpk, hkept pk hstored₂ hmapped⟩
    · obtain ⟨hscanned, hmapped⟩ := hrest.complete pk (decide_eq_true (hlt last hmem)) hstored₂ fun x hx =>
        hfresh x (List.mem_append_right steps hx)
      exact ⟨List.mem_append_right _ hscanned, hmapped⟩

variable (registry moments others) in
/-- **The pages from a cursor on.** By induction on their number, which is greater than that of the keys beyond the
cursor. -/
theorem World.exists_backfillPages (hbatch : 0 < batchSize) {pages : Nat} {report : BackfillReport}
    (hdry : report.dryRun = false) (hroom : keysBeyond cursor < pages) (hw : w.memory.Regular) :
    ∃ report' w', w.runAmid registry moments others (backfillPages batchSize pages cursor report).run =
        (.ok report', w') ∧
      report'.failures = report.failures ∧
      report'.scanned = report.scanned + (scannedKeys registry moments
        (w.stepsAmid registry moments others (backfillPages batchSize pages cursor report).run)).length ∧
      Swept registry moments others report.model cursor
        (w.stepsAmid registry moments others (backfillPages batchSize pages cursor report).run) w'.memory := by
  induction pages generalizing cursor report w with
  | zero => exact absurd hroom (Nat.not_lt_zero _)
  | succ pages ih =>
    have hkeys : w.runAmid registry moments others
        (liftM (Store.keys report.model cursor batchSize) : Action (List Int64)).run =
          (.ok (w.memory.keys report.model cursor batchSize),
            (w.answerAmid registry moments others (.keys report.model cursor batchSize)).2) := rfl
    have hlist : w.stepsAmid registry moments others
        (liftM (Store.keys report.model cursor batchSize) : Action (List Int64)).run =
          [(.keys report.model cursor batchSize, w)] := rfl
    have hw₁ := regular_answerAmid registry moments others hw (.keys report.model cursor batchSize)
    generalize (w.answerAmid registry moments others (.keys report.model cursor batchSize)).2 = w₁ at hkeys hw₁
    unfold backfillPages
    rw [runAmid_run_bind, stepsAmid_run_bind, hkeys, hlist]
    cases hpage : w.memory.keys report.model cursor batchSize with
    | nil =>
      have hpaged : Paged registry moments others report.model cursor batchSize []
          [(.keys report.model cursor batchSize, w)] w₁.memory := by
        rw [← hpage]
        refine .of_keys hw rfl fun pk hpk => ?_
        rw [hpage] at hpk
        cases hpk
      refine ⟨report, w₁, rfl, rfl, ?_, hpaged.swept (Nat.ne_of_lt hbatch)⟩
      exact congrArg (report.scanned + ·.length) hpaged.scanned.symm
    | cons first rest =>
      obtain ⟨last, hlast⟩ : ∃ last, (first :: rest).getLast? = some last := ⟨_, List.getLast?_cons⟩
      obtain ⟨o, w₂, hrun⟩ := exists_backfillBatch registry moments others hw₁ report.model (first :: rest)
      have hw₂ := regular_runAmid registry moments others hw₁ (backfillBatch report.model false (first :: rest)).run
      have hpaged : Paged registry moments others report.model cursor batchSize (first :: rest)
          ((.keys report.model cursor batchSize, w) ::
            w₁.stepsAmid registry moments others (backfillBatch report.model false (first :: rest)).run) w₂.memory := by
        rw [← hpage]
        refine .of_keys hw (scannedKeys_backfillBatch registry moments others _ _ _) fun pk hpk hstored hfresh => ?_
        rw [hpage] at hpk hstored hfresh
        simpa only [hrun] using mapped_backfillBatch hw₁ hpk hstored hfresh
      rw [hrun] at hw₂
      simp only [List.head?_cons, hlast, hdry, runAmid_run_bind, stepsAmid_run_bind, runAmid_lift, stepsAmid_lift, hrun]
      generalize w₁.stepsAmid registry moments others (backfillBatch report.model false (first :: rest)).run = steps
        at hpaged
      by_cases hshort : (first :: rest).length < batchSize
      · simp only [hshort, if_true]
        refine ⟨report.record first last (first :: rest) (.ok o), w₂, rfl, rfl, ?_, ?_⟩
        · change _ = _ + (scannedKeys registry moments (_ :: (steps ++ []))).length
          rw [List.append_nil, hpaged.scanned]
          rfl
        · change Swept _ _ _ _ _ (_ :: (steps ++ [])) _
          rw [List.append_nil]
          exact hpaged.swept (Nat.ne_of_lt hshort)
      · simp only [hshort, if_false]
        have hdry' : (report.record first last (first :: rest) (.ok o)).dryRun = false := hdry
        have hroom' : keysBeyond (some last) < pages :=
          Nat.lt_of_lt_of_le (keysBeyond_lt (hpaged.beyond last (List.mem_of_getLast? hlast))) (Nat.le_of_lt_succ hroom)
        obtain ⟨report', w', hrest, hfailures, hcount, hswept⟩ := ih hdry' hroom' hw₂
        refine ⟨report', w', hrest, hfailures, ?_, hpaged.swept_append hlast hswept fun pk hstored hid => ?_⟩
        · change _ = _ + (scannedKeys registry moments ((_ :: steps) ++ _)).length
          rw [hcount, scannedKeys_append, hpaged.scanned, List.length_append, ← Nat.add_assoc]
          rfl
        · have hkept := mapped_runAmid hw₂ (backfillPages_makes batchSize pages (some last) hdry') hstored hid
          rwa [hrest] at hkept

/-! ## The whole run -/

/-- A backfill has reached all there is to reach, with the given calls. -/
structure BackfillComplete (registry : Registry) (moments : Nat → Moment) (others : Others) (ty : String)
    (steps : List (BackendCall × World)) (report : BackfillReport) (m : Memory) : Prop where
  /-- No batch has failed. -/
  failures : report.failures = []
  count : report.scanned = (scannedKeys registry moments steps).length
  /-- The keys of all pages ascend; none is scanned twice. -/
  ascending : (scannedKeys registry moments steps).Pairwise (· < ·)
  /-- No call of the run changes or removes an entry. -/
  keeps : ∀ x ∈ steps, x.2.memory.mappings.Keeps (x.2.answer registry moments x.1).2.memory.mappings
  /-- If no id is drawn that is in use, every row that is stored throughout has been scanned once and has one entry. -/
  mapped : (∀ x ∈ steps, fresh x.1 x.2 = true) → ∀ pk,
    (∀ x ∈ steps, Stored registry moments others ty pk x.1 x.2) →
      (scannedKeys registry moments steps).count pk = 1 ∧ ∃ e, m.mappings.entriesOf ty pk = [e]

/-- **Whatever others do, a backfill reaches every row that is stored throughout.** From every reachable state the run
ends, in batches of any size, whatever rows and entries come and go after each of its calls. -/
theorem backfill_complete_amid_others (moments : Nat → Moment) (others : Others)
    (hw : Memory.Reachable registry w.memory) {model : Model} (htracks : model.tracksPublicIds = true)
    (hbatch : 0 < batchSize) :
    ∃ report w', w.runAmid registry moments others (backfillModel false batchSize model).run = (.ok report, w') ∧
      BackfillComplete registry moments others model.entityType
        (w.stepsAmid registry moments others (backfillModel false batchSize model).run) report w'.memory := by
  have hdry : (BackfillReport.start model.entityType false).dryRun = false := rfl
  have hroom : keysBeyond none < keySpace + 1 := Nat.lt_succ_self _
  obtain ⟨report, w', hrun, hfailures, hcount, hswept⟩ :=
    World.exists_backfillPages registry moments others hbatch hdry hroom hw.regular
  have hmakes := backfillPages_makes batchSize (keySpace + 1) none hdry
  have hregular : w'.memory.Regular := by
    have hend := World.regular_runAmid registry moments others hw.regular
      (backfillPages batchSize (keySpace + 1) none (.start model.entityType false)).run
    rwa [hrun] at hend
  have hmodel : (backfillModel false batchSize model).run =
      (backfillPages batchSize (keySpace + 1) none (.start model.entityType false)).run := by
    have hsize : checkBatchSize batchSize = .ok () := if_neg (Nat.ne_of_gt hbatch)
    have heligible : checkEligible model = .ok () := if_pos htracks
    unfold backfillModel
    rw [hsize, heligible]
    rfl
  rw [hmodel]
  refine ⟨report, w', hrun, hfailures, ?_, hswept.ascending, ?_, fun hfresh pk hstored => ?_⟩
  · rw [hcount]
    exact Nat.zero_add _
  · exact fun x hx => (hmakes.throughout w x hx).keeps registry moments x.2
  · obtain ⟨hscanned, hid⟩ := hswept.complete pk rfl hstored hfresh
    obtain ⟨u, hu⟩ := Option.isSome_iff_exists.1 hid
    obtain ⟨e, he, -⟩ := hregular.coherent.exists_entryOf? hu
    refine ⟨List.count_eq_one_of_mem (hswept.ascending.imp fun hlt => Int64.ne_of_lt hlt) hscanned, e, ?_⟩
    have hentry : w'.memory.mappings.entryOf? model.entityType pk = some e := he
    rw [hregular.coherent.entriesOf_eq, hentry]
    rfl

/-- While the widgets are backfilled one by one, others delete the first, and create a third and a ninth. -/
def Others.busy : Others
  | 0 => [(.counted 14, .delete "shop.widget" 1), (.counted 14, .create "shop.widget" .null)]
  | 5 => [(.counted 15, .createAt "shop.widget" 9 .null)]
  | _ => []

/-- The second widget, which is there all the time, gets its entry. -/
theorem backfill_complete_amid_others_widgets :
    ∃ report w', World.loaded.runAmid .widgets .counted .busy (backfillModel false 1 Registry.widget).run =
        (.ok report, w') ∧
      report.failures = [] ∧ ∃ e, w'.memory.mappings.entriesOf "shop.widget" 2 = [e] := by
  have hids : (World.loaded.stepsAmid .widgets .counted .busy (backfillModel false 1 Registry.widget).run).all
      (fun x => fresh x.1 x.2) = true := by
    decide +kernel
  have hrows : (World.loaded.stepsAmid .widgets .counted .busy (backfillModel false 1 Registry.widget).run).all
      (fun x => (x.2.memory :: x.2.passed .widgets .counted .busy x.1).all fun m => (m.row? "shop.widget" 2).isSome) =
        true := by
    decide +kernel
  obtain ⟨report, w', hrun, h⟩ := backfill_complete_amid_others .counted .busy Memory.reachable_loaded
    (show Registry.widget.tracksPublicIds = true from rfl) Nat.one_pos
  refine ⟨report, w', hrun, h.failures, (h.mapped (fun x hx => ?_) 2 fun x hx => ?_).2⟩
  · exact List.all_eq_true.1 hids x hx
  · exact List.all_eq_true.1 (List.all_eq_true.1 hrows x hx)

end RowIdentity
