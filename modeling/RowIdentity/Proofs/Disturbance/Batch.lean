import RowIdentity.Proofs.Concurrency.Told
import RowIdentity.Proofs.Counting
import RowIdentity.Proofs.Disturbance.Calls

/-!
# One batch on a database whose calls may fail

* `MappingTable.Fits`, `MappingTable.addAll` — entries that go in one after another, none in conflict;
* `Fits.of_unused`, `Memory.insertEntries_of_fits` — fresh entries of rows without one are such, and all of them go in;
* `Disturbed.Attempts` — an action that ends in a fault and has changed nothing, or with a result;
* `Disturbed.attempts_backfillBatch` — **a batch fails as a whole, or it gives an entry to each of its rows without
  one**.
-/

namespace RowIdentity

/-! ## Entries that go in one after another -/

namespace MappingTable

variable {t : MappingTable} {es es' : List MappingEntry} {ty : String} {pk : Int64}

/-- The table with more entries. -/
def addAll (t : MappingTable) (es : List MappingEntry) : MappingTable := es.foldl add t

/-- When its turn comes, the row of each entry has none, and its public id is unused. -/
def Fits : MappingTable → List MappingEntry → Prop
  | _, [] => True
  | t, e :: es => t.idOf? e.entityType e.rowKey = none ∧ t.entryById? e.publicId = none ∧ (t.add e).Fits es

theorem addAll_append (t : MappingTable) (es es' : List MappingEntry) :
    t.addAll (es ++ es') = (t.addAll es).addAll es' := List.foldl_append

theorem Fits.append (h : t.Fits es) (h' : (t.addAll es).Fits es') : t.Fits (es ++ es') := by
  induction es generalizing t with
  | nil => exact h'
  | cons e es ih => exact ⟨h.1, h.2.1, ih h.2.2 h'⟩

theorem Coherent.addAll (ht : Coherent t) (h : t.Fits es) : Coherent (t.addAll es) := by
  induction es generalizing t with
  | nil => exact ht
  | cons e es ih => exact ih (ht.add h.1 h.2.1) h.2.2

theorem Fits.keeps (h : t.Fits es) : Keeps t (t.addAll es) := by
  induction es generalizing t with
  | nil => exact .refl t
  | cons e es ih => exact (Keeps.add h.1 h.2.1).trans (ih h.2.2)

theorem Fits.size_addAll (h : t.Fits es) : (t.addAll es).size = t.size + es.length := by
  induction es generalizing t with
  | nil => rfl
  | cons e es ih =>
    change ((t.add e).addAll es).size = _
    rw [ih h.2.2, size_add h.2.1, List.length_cons]
    omega

/-- Rows that are not those of the entries keep what they have. -/
theorem idOf?_addAll_of_not_mem (hk : (ty, pk) ∉ es.map MappingEntry.key) :
    (t.addAll es).idOf? ty pk = t.idOf? ty pk := by
  induction es generalizing t with
  | nil => rfl
  | cons e es ih =>
    obtain ⟨hne, hk⟩ := not_or.1 (List.mem_cons.not.1 hk)
    change ((t.add e).addAll es).idOf? ty pk = _
    rw [ih hk, idOf?_add, if_neg fun heq => hne heq.symm]

theorem Fits.isSome_idOf?_addAll (h : t.Fits es) (hk : (ty, pk) ∈ es.map MappingEntry.key) :
    ((t.addAll es).idOf? ty pk).isSome = true := by
  induction es generalizing t with
  | nil => cases hk
  | cons e es ih =>
    rcases List.mem_cons.1 hk with heq | hk
    · obtain ⟨rfl, rfl⟩ := Prod.mk.inj heq
      exact h.2.2.keeps.isSome_idOf? (by rw [idOf?_add, if_pos rfl]; rfl)
    · exact ih h.2.2 hk

/-- A row with a public id has one entry. -/
theorem Coherent.exists_entriesOf (ht : Coherent t) (hid : (t.idOf? ty pk).isSome = true) :
    ∃ e, t.entriesOf ty pk = [e] := by
  obtain ⟨u, hu⟩ := Option.isSome_iff_exists.1 hid
  obtain ⟨e, he, -⟩ := ht.exists_entryOf? hu
  rw [ht.entriesOf_eq, he]
  exact ⟨e, rfl⟩

/-- The other rows have the entries they had. -/
theorem Fits.entriesOf_addAll (ht : Coherent t) (h : t.Fits es) (hk : (ty, pk) ∉ es.map MappingEntry.key) :
    (t.addAll es).entriesOf ty pk = t.entriesOf ty pk := by
  rw [(ht.addAll h).entriesOf_eq, ht.entriesOf_eq]
  congr 1
  unfold entryOf?
  rw [idOf?_addAll_of_not_mem hk]
  cases hid : t.idOf? ty pk with
  | none => rfl
  | some u =>
    obtain ⟨e, he, -, -⟩ := ht.entry_of_id ty pk u hid
    exact (h.keeps.byId u e he).trans he.symm

/-- Entries of different rows without one, under different unused ids. -/
theorem Fits.of_unused (hids : (es.map (·.publicId)).Nodup) (hrows : (es.map MappingEntry.key).Nodup)
    (hfree : ∀ e ∈ es, t.idOf? e.entityType e.rowKey = none ∧ t.entryById? e.publicId = none) : t.Fits es := by
  induction es generalizing t with
  | nil => trivial
  | cons e es ih =>
    obtain ⟨hid, hids⟩ := List.nodup_cons.1 hids
    obtain ⟨hrow, hrows⟩ := List.nodup_cons.1 hrows
    obtain ⟨hnone, hunused⟩ := hfree e List.mem_cons_self
    refine ⟨hnone, hunused, ih hids hrows fun e' he' => ?_⟩
    obtain ⟨hnone', hunused'⟩ := hfree e' (List.mem_cons_of_mem _ he')
    rw [idOf?_add, entryById?_add, if_neg, if_neg]
    · exact ⟨hnone', hunused'⟩
    · exact fun heq => hid (List.mem_map.2 ⟨e', he', heq.symm⟩)
    · exact fun heq => hrow (List.mem_map.2 ⟨e', he', heq.symm⟩)

end MappingTable

namespace Memory

variable {m : Memory} {es : List MappingEntry} {ty : String} {pks : List Int64}

/-- **All entries go in** if none is in conflict. -/
theorem insertEntries_of_fits (h : m.mappings.Fits es) :
    m.insertEntries es = (es.length, { m with mappings := m.mappings.addAll es }) := by
  have hfold : ∀ (es : List MappingEntry) (n : Nat) (t : MappingTable), t.Fits es →
      es.foldl insertEntry (n, t) = (n + es.length, t.addAll es) := by
    intro es
    induction es with
    | nil => exact fun _ _ _ => rfl
    | cons e es ih =>
      intro n t ⟨hrow, hid, hes⟩
      have hinsert : t.insert e = (.inserted e.publicId, t.add e) := by
        simp only [MappingTable.insert, hrow, hid, MappingTable.add]
      have hfirst : insertEntry (n, t) e = (n + 1, t.add e) := by
        simp only [insertEntry, hinsert, InsertOutcome.isInserted, if_true]
      rw [List.foldl_cons, hfirst, ih _ _ hes, List.length_cons, Nat.add_assoc, Nat.add_comm 1]
      rfl
  simp only [insertEntries, hfold es 0 m.mappings h, Nat.zero_add]

/-! ## Keys with and without an entry -/

theorem missing_eq_filter (m : Memory) (ty : String) (pks : List Int64) :
    m.missing ty pks = pks.filter fun pk => (m.mappings.idOf? ty pk).isNone := by
  refine List.filter_congr fun pk hpk => ?_
  rw [Bool.eq_iff_iff]
  simp only [Bool.not_eq_true', ← Bool.not_eq_true, List.contains_iff_mem, MappingTable.mapped, List.mem_eraseDups,
    List.mem_filter, hpk, true_and]
  cases m.mappings.idOf? ty pk <;> simp

theorem eraseDups_of_nodup {l : List Int64} (h : l.Nodup) : l.eraseDups = l := by
  induction l with
  | nil => rfl
  | cons k l ih =>
    obtain ⟨hk, hl⟩ := List.nodup_cons.1 h
    have hrest : (l.filter fun k' => !k' == k) = l := by
      refine List.filter_eq_self.2 fun k' hk' => ?_
      have hne : k' ≠ k := fun heq => hk (heq ▸ hk')
      simpa using hne
    rw [List.eraseDups_cons, hrest, ih hl]

/-- Each key has an entry or has none. -/
theorem length_mapped_add (m : Memory) (ty : String) (hpks : pks.Nodup) :
    (m.mappings.mapped ty pks).length + (m.missing ty pks).length = pks.length := by
  rw [MappingTable.mapped, eraseDups_of_nodup (hpks.filter _), missing_eq_filter]
  have hnot : (fun pk => (m.mappings.idOf? ty pk).isNone) = fun pk => !(m.mappings.idOf? ty pk).isSome := by
    funext pk
    cases m.mappings.idOf? ty pk <;> rfl
  rw [hnot]
  exact (List.length_eq_length_filter_add _).symm

/-- Rows that are stored survive. -/
theorem survivors_of_stored (hstored : ∀ pk ∈ pks, (m.row? ty pk).isSome = true) :
    (m.missing ty pks).filter (m.existing ty (m.missing ty pks)).contains = m.missing ty pks := by
  refine List.filter_eq_self.2 fun pk hpk => List.contains_iff_mem.2 ?_
  refine List.mem_eraseDups.2 (List.mem_filter.2 ⟨hpk, hstored pk ?_⟩)
  rw [missing_eq_filter] at hpk
  exact List.mem_of_mem_filter hpk

end Memory

theorem map_key_newEntries (moments : Nat → Moment) (ty : String) (n : Nat) (pks : List Int64) :
    (newEntries moments ty n pks).map MappingEntry.key = pks.map (ty, ·) := by
  induction pks generalizing n with
  | nil => rfl
  | cons pk pks ih => exact congrArg ((ty, pk) :: ·) (ih (n + 1))

theorem map_rowKey_newEntries (moments : Nat → Moment) (ty : String) (n : Nat) (pks : List Int64) :
    (newEntries moments ty n pks).map (·.rowKey) = pks := by
  have hkeys := congrArg (List.map Prod.snd) (map_key_newEntries moments ty n pks)
  simpa [MappingEntry.key, Function.comp_def] using hkeys

/-! ## Attempts -/

/-- The keys that a call of a batch is about. -/
def BackendCall.about : BackendCall → List Int64
  | .mapped _ pks => pks
  | .existing _ pks => pks
  | .insertEntries es => es.map (·.rowKey)
  | _ => []

namespace Disturbed

variable {registry : Registry} {moments : Nat → Moment} {d : Disturbance} {s : Disturbed} {w : World} {ty : String}
  {pks : List Int64}

section

variable {α β : Type} {a : StoreAction α} {Q : α → Disturbed → Prop} {R : β → Disturbed → Prop}

/-- What some calls about the keys of a batch come to: the fault of a call that fails, and nothing has changed; or a
result, and no call fails. -/
inductive Ending (d : Disturbance) (s : Disturbed) (steps : List (BackendCall × Disturbed)) (Q : α → Disturbed → Prop) :
    Except Fault α × Disturbed → Prop
  | fault {kind : CallKind} {s' : Disturbed} {x : BackendCall × Disturbed} (same : s'.world.memory = s.world.memory)
      (mem : x ∈ steps) (kind_eq : x.1.kind? = some kind) (fails : d.Fails x.1 x.2 = true) (about : x.1.about ≠ []) :
      Ending d s steps Q (.error (lostConnection kind), s')
  | result {x : α} {s' : Disturbed} (holds : Q x s') (none : ∀ x ∈ steps, d.Fails x.1 x.2 = false) :
      Ending d s steps Q (.ok x, s')

/-- If all ids of new entries are fresh, the action makes only calls about the given keys, and ends in a fault that
has changed nothing or with a result of which `Q` holds. -/
def Attempts (registry : Registry) (moments : Nat → Moment) (d : Disturbance) (pks : List Int64) (a : StoreAction α)
    (s : Disturbed) (Q : α → Disturbed → Prop) : Prop :=
  (∀ x ∈ steps registry moments d a.run s, fresh x.1 x.2.world = true) →
    (∀ x ∈ steps registry moments d a.run s, x.1.about ⊆ pks) ∧
      Ending d s (steps registry moments d a.run s) Q (exec registry moments d a.run s)

namespace Attempts

theorem pure {x : α} (h : Q x s) : Attempts registry moments d pks (Pure.pure x) s Q :=
  fun _ => ⟨List.forall_mem_nil _, .result h (List.forall_mem_nil _)⟩

/-- What comes before the call that fails must not have changed anything. -/
theorem bind {k : α → StoreAction β} (ha : Attempts registry moments d pks a s Q)
    (hk : ∀ x s', Q x s' → s'.world.memory = s.world.memory ∧ Attempts registry moments d pks (k x) s' R) :
    Attempts registry moments d pks (a >>= k) s R := by
  unfold Attempts
  rw [steps_run_bind, exec_run_bind]
  intro hfresh
  obtain ⟨habout, hend⟩ := ha fun x hx => hfresh x (List.mem_append_left _ hx)
  generalize exec registry moments d a.run s = end₁ at hfresh hend ⊢
  cases hend with
  | fault hsame hx hkind hfails hne =>
    exact ⟨by simpa using habout, .fault hsame (List.mem_append_left _ hx) hkind hfails hne⟩
  | @result x s' hQ hnone =>
    obtain ⟨hsame, hrest⟩ := hk x s' hQ
    obtain ⟨habout', hend'⟩ := hrest fun y hy => hfresh y (List.mem_append_right _ hy)
    refine ⟨List.forall_mem_append.2 ⟨habout, habout'⟩, ?_⟩
    dsimp only
    generalize exec registry moments d (k x).run s' = end₂ at hend' ⊢
    cases hend' with
    | fault hsame' hy hkind hfails hne =>
      exact .fault (hsame'.trans hsame) (List.mem_append_right _ hy) hkind hfails hne
    | result hR hnone' => exact .result hR (List.forall_mem_append.2 ⟨hnone, hnone'⟩)

/-- What comes after the last call may have changed everything. -/
theorem map {g : α → β} (ha : Attempts registry moments d pks a s Q) (hQ : ∀ x s', Q x s' → R (g x) s') :
    Attempts registry moments d pks (a >>= fun x => Pure.pure (g x)) s R := by
  have hsteps : steps registry moments d (a >>= fun x => Pure.pure (g x)).run s = steps registry moments d a.run s := by
    rw [steps_run_bind]
    rcases exec registry moments d a.run s with ⟨_ | _, s'⟩
    · exact List.append_nil _
    · exact List.append_nil _
  unfold Attempts
  rw [hsteps, exec_run_bind]
  intro hfresh
  obtain ⟨habout, hend⟩ := ha hfresh
  refine ⟨habout, ?_⟩
  generalize exec registry moments d a.run s = end₁ at hend ⊢
  cases hend with
  | fault hsame hx hkind hfails hne => exact .fault hsame hx hkind hfails hne
  | result hQx hnone => exact .result (hQ _ _ hQx) hnone

/-- An action that is a single call. -/
theorem call {c : BackendCall} {kind : CallKind} (hkind : c.kind? = some kind)
    (hsteps : steps registry moments d a.run s = [(c, s)]) (habout : c.about ⊆ pks) (hne : c.about ≠ [])
    (hfails : d.Fails c s = true → ∃ s', exec registry moments d a.run s = (.error (lostConnection kind), s') ∧
      s'.world.memory = s.world.memory)
    (hok : d.Fails c s = false →
      ∃ x s', exec registry moments d a.run s = (.ok x, s') ∧ (fresh c s.world = true → Q x s')) :
    Attempts registry moments d pks a s Q := by
  unfold Attempts
  rw [hsteps]
  intro hfresh
  refine ⟨by simpa using habout, ?_⟩
  cases hc : d.Fails c s with
  | true =>
    obtain ⟨s', hrun, hsame⟩ := hfails hc
    rw [hrun]
    exact .fault hsame List.mem_cons_self hkind hc hne
  | false =>
    obtain ⟨x, s', hrun, hQ⟩ := hok hc
    rw [hrun]
    exact .result (hQ (hfresh _ List.mem_cons_self)) (by simpa using hc)

end Attempts

end

/-- An action that has changed nothing in the end. -/
def Same (s : Disturbed) {α : Type} (x₀ : α) (x : α) (s' : Disturbed) : Prop :=
  s'.world.memory = s.world.memory ∧ x = x₀

section Calls

variable {ks : List Int64} (hd : d.OnlyFails) (hs : s.world.memory.Regular) (hks : ks ⊆ pks) (hne : ks ≠ [])

include hd hs hks hne

theorem attempts_mapped (ty : String) :
    Attempts registry moments d pks (Store.mapped ty ks) s (s.Same (s.world.memory.mappings.mapped ty ks)) :=
  .call rfl rfl hks hne (fun h => ⟨_, answer_of_fails registry moments rfl rfl h, rfl⟩) fun h =>
    ⟨_, _, answer_of_not_fails registry moments hd hs h, fun _ => ⟨rfl, rfl⟩⟩

theorem attempts_existing (ty : String) :
    Attempts registry moments d pks (Store.existing ty ks) s (s.Same (s.world.memory.existing ty ks)) :=
  .call rfl rfl hks hne (fun h => ⟨_, answer_of_fails registry moments rfl rfl h, rfl⟩) fun h =>
    ⟨_, _, answer_of_not_fails registry moments hd hs h, fun _ => ⟨rfl, rfl⟩⟩

theorem attempts_insertEntries {es : List MappingEntry} (hes : es.map (·.rowKey) = ks) :
    Attempts registry moments d pks (Store.insertEntries es) s fun n s' =>
      fresh (.insertEntries es) s.world = true ∧ (n, s'.world.memory) = s.world.memory.insertEntries es := by
  have habout : (BackendCall.insertEntries es).about = ks := hes
  exact .call rfl rfl (habout ▸ hks) (habout ▸ hne)
    (fun h => ⟨_, answer_of_fails registry moments rfl rfl h, rfl⟩) fun h =>
      ⟨_, _, answer_of_not_fails registry moments hd hs h, fun hfresh => ⟨hfresh, rfl⟩⟩

end Calls

theorem attempts_newEntries (ty : String) (ks : List Int64) :
    Attempts registry moments d pks (ks.mapM (Store.newEntry ty)) s
      (s.Same (newEntries moments ty s.world.calls ks)) := by
  have hstamps : (ks.mapM (Store.newEntry ty)).run.Makes fun c : BackendCall => c = .stamp :=
    Program.Makes.mapM fun _ => ⟨rfl, fun _ => trivial⟩
  have hstamp : ∀ x ∈ steps registry moments d (ks.mapM (Store.newEntry ty)).run s, x.1 = .stamp :=
    fun x hx => hstamps.throughout s x hx
  refine fun _ => ⟨fun x hx => ?_, ?_⟩
  · rw [hstamp x hx]
    exact List.nil_subset _
  · rw [exec_of_stamps hstamps, World.exec_mapM_newEntry]
    refine .result ⟨rfl, rfl⟩ fun x hx => ?_
    rw [Disturbance.Fails, hstamp x hx]
    rfl

/-! ## A batch -/

/-- What a batch has done that did not fail: its rows without an entry have got one each. -/
structure Filled (ty : String) (pks : List Int64) (m : Memory) (o : BatchOutcome) (m' : Memory) : Prop where
  vanished : o.vanished = 0
  counted : o.created + o.alreadyMapped = pks.length
  entries : ∃ es : List MappingEntry, es.map MappingEntry.key = (m.missing ty pks).map (ty, ·) ∧ m.mappings.Fits es ∧
    o.created = es.length ∧ m' = { m with mappings := m.mappings.addAll es }

/-- Fresh entries of rows without one fit. -/
theorem fits_of_fresh {n : Nat} (hpks : pks.Nodup)
    (hfresh : fresh (.insertEntries (newEntries moments ty n (w.memory.missing ty pks))) w = true) :
    w.memory.mappings.Fits (newEntries moments ty n (w.memory.missing ty pks)) := by
  obtain ⟨hids, hunused⟩ := Bool.and_eq_true_iff.1 hfresh
  rw [Memory.missing_eq_filter] at *
  refine MappingTable.Fits.of_unused (of_decide_eq_true hids) ?_ fun e he => ⟨?_, ?_⟩
  · rw [map_key_newEntries]
    exact (hpks.filter _).map fun _ _ heq => (Prod.mk.inj heq).2
  · obtain ⟨hty, hpk⟩ := mem_newEntries he
    rw [hty]
    exact Option.isNone_iff_eq_none.1 (List.mem_filter.1 hpk).2
  · exact Option.isNone_iff_eq_none.1 (List.all_eq_true.1 hunused e he)

/-- **A batch fails as a whole, or it gives an entry to each of its rows without one.** -/
theorem attempts_backfillBatch (hd : d.OnlyFails) (hs : s.world.memory.Regular) (hne : pks ≠ []) (hpks : pks.Nodup)
    (hstored : ∀ pk ∈ pks, (s.world.memory.row? ty pk).isSome = true) :
    Attempts registry moments d pks (backfillBatch ty false pks) s fun o s' =>
      Filled ty pks s.world.memory o s'.world.memory := by
  have hcounted := s.world.memory.length_mapped_add ty hpks
  have hsub : s.world.memory.missing ty pks ⊆ pks := List.filter_subset_self _
  unfold backfillBatch
  refine (attempts_mapped hd hs (List.Subset.refl pks) hne ty).bind ?_
  rintro mapped s₁ ⟨hs₁, rfl⟩
  refine ⟨hs₁, ?_⟩
  simp only [← s.world.memory.missing_eq, Bool.false_eq_true, if_false]
  split
  next hnone =>
    rw [List.isEmpty_iff] at hnone
    refine .pure ⟨rfl, ?_, [], by rw [hnone]; rfl, trivial, rfl, hs₁⟩
    rw [hnone] at hcounted
    exact (Nat.zero_add _).trans hcounted
  next hsome =>
    have hmissing : s.world.memory.missing ty pks ≠ [] := fun hnil => hsome (List.isEmpty_iff.2 hnil)
    refine (attempts_existing hd (hs₁ ▸ hs) hsub hmissing ty).bind ?_
    rintro existing s₂ ⟨hs₂, rfl⟩
    refine ⟨hs₂, ?_⟩
    rw [hs₁, Memory.survivors_of_stored hstored]
    refine (attempts_newEntries ty _).bind ?_
    rintro es s₃ ⟨hs₃, rfl⟩
    refine ⟨hs₃, ?_⟩
    have hm₃ : s₃.world.memory = s.world.memory := hs₃.trans (hs₂.trans hs₁)
    rw [← hm₃] at hs hcounted hsub hmissing ⊢
    refine (attempts_insertEntries hd hs hsub hmissing (map_rowKey_newEntries ..)).map ?_
    rintro n s₄ ⟨hfresh, hinsert⟩
    have hfits := fits_of_fresh hpks hfresh
    rw [Memory.insertEntries_of_fits hfits] at hinsert
    obtain ⟨rfl, hm₄⟩ := Prod.mk.inj hinsert
    have hlength := congrArg List.length (map_rowKey_newEntries moments ty s₂.world.calls
      (s₃.world.memory.missing ty pks))
    rw [List.length_map] at hlength
    refine ⟨Nat.sub_self _, ?_, _, map_key_newEntries .., hfits, rfl, hm₄⟩
    change (newEntries ..).length + (s₃.world.memory.mappings.mapped ty pks).length = _
    rw [hlength, Nat.add_comm, hcounted]

end Disturbed

end RowIdentity
