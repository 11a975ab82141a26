import RowIdentity.Proofs.Concurrency.Backfill
import RowIdentity.Proofs.Concurrency.Told
import RowIdentity.Proofs.Lifecycle
import RowIdentity.Proofs.Listing.Page

/-!
# A new row, and its deletion

* `Memory.HasRoom`, `Memory.Counted` — counters of keys that have not run over, now and on the way to a state;
* `Counted.nextKey_pos`, `Regular.nextKey_not_mem` — **keys that are counted are positive and free**;
* `Memory.NoOrphans` — every entry is that of a stored row;
* `exists_create` — a creation succeeds where an unused id is drawn;
* `Memory.Fresh`, `Fresh.of_create` — the state after a row went in whose key was free and had no entry;
* `Fresh.delete` — **deleting a new row undoes its creation**, the counter apart.
-/

namespace RowIdentity

/-! ## What is put in last can be taken out again -/

theorem MappingTable.remove_of_unmapped {t : MappingTable} {ty : String} {pk : Int64} (h : t.idOf? ty pk = none) :
    (t.remove ty pk).2 = t := by
  simp [MappingTable.remove, h]

theorem MappingTable.remove_add {t : MappingTable} {e : MappingEntry} (hrow : t.idOf? e.entityType e.rowKey = none)
    (hid : t.entryById? e.publicId = none) : ((t.add e).remove e.entityType e.rowKey).2 = t := by
  have hown : (t.add e).idOf? e.entityType e.rowKey = some e.publicId := by rw [idOf?_add, if_pos rfl]
  simp only [MappingTable.remove, hown]
  exact congrArg₂ MappingTable.mk (Assoc.remove_put hid e) (Assoc.remove_put hrow e.publicId)

/-! ## Counters of keys -/

theorem key_lt_succ {a : Int64} (h : a < Int64.maxValue) : a < a + 1 := by
  have hmax : Int64.maxValue.toInt = 2 ^ 63 - 1 := by decide
  have hone : (1 : Int64).toInt = 1 := by decide
  have hle := a.le_toInt
  rw [Int64.lt_iff_toInt_lt, hmax] at h
  rw [Int64.lt_iff_toInt_lt, Int64.toInt_add, hone, Int.bmod_eq_of_le (by omega) (by omega)]
  omega

theorem key_le_max_left (a b : Int64) : a ≤ max a b := by
  change a ≤ if a ≤ b then b else a
  split
  next h => exact h
  next => exact Int64.le_refl a

theorem key_le_max_right (a b : Int64) : b ≤ max a b := by
  change b ≤ if a ≤ b then b else a
  split
  next => exact Int64.le_refl b
  next h => exact Int64.le_of_lt (Int64.not_le.1 h)

/-- The entity types whose keys a call counts. -/
def BackendCall.counts : BackendCall → List String
  | .create ty _ => [ty]
  | _ => []

namespace Memory

variable {registry : Registry} {t : Moment} {m m' : Memory} {ty : String} {pk : Int64}

/-- There is a key beyond those that were counted and those in the table. -/
def HasRoom (m : Memory) (ty : String) : Prop := max (m.sequence ty) (m.lastKey ty) < Int64.maxValue

instance (m : Memory) (ty : String) : Decidable (m.HasRoom ty) := inferInstanceAs (Decidable (_ < _))

/-- A state that calls and loads have led to from the empty database, and no counter of keys has run over. -/
inductive Counted (registry : Registry) : Memory → Prop where
  | empty : Counted registry empty
  | answer {m : Memory} (flag : Bool) (t : Moment) (c : BackendCall) : Counted registry m →
      (∀ ty ∈ c.counts, m.HasRoom ty) → Counted registry (answer registry flag t c m).2
  | load {m : Memory} (now : Instant) (ty : String) (rows : List (Int64 × Json)) :
      Counted registry m → Counted registry (m.load now ty rows).2

theorem Counted.reachable (h : Counted registry m) : Reachable registry m := by
  induction h with
  | empty => exact .empty
  | answer flag t c _ _ ih => exact ih.answer flag t c
  | load now ty rows _ ih => exact ih.load now ty rows

theorem sequence_setSequence (m : Memory) (ty ty' : String) (pk : Int64) :
    (m.setSequence ty pk).sequence ty' = if ty = ty' then pk else m.sequence ty' := by
  simp only [sequence, setSequence, Assoc.get?_put]
  split
  · rfl
  · rfl

theorem sequences_insertRow (registry : Registry) (t : Moment) (m : Memory) (r : Row) :
    (insertRow registry t m r).2.sequences = m.sequences := by
  unfold insertRow entryOrNew
  simp only
  split
  · split
    next h => split at h <;> cases h; rfl
    next => rfl
  · rfl

/-- A creation counts the key that it hands out. -/
theorem sequence_create {data : Json} {r : Row} (h : create registry t m ty data = (.ok r, m')) (ty' : String) :
    m'.sequence ty' = if ty = ty' then m.nextKey ty else m.sequence ty' := by
  unfold create at h
  split at h
  next => cases h
  next =>
    simp only at h
    have hseq := sequences_insertRow registry t (m.setSequence ty (m.nextKey ty)) ⟨ty, m.nextKey ty, data, t.now⟩
    split at h
    next heq =>
      cases h
      rw [heq] at hseq
      rw [← sequence_setSequence, sequence, sequence, hseq]
    next => cases h

/-- No other call counts. -/
theorem sequences_answer {flag : Bool} {c : BackendCall} (hc : c.counts = []) (m : Memory) :
    (answer registry flag t c m).2.sequences = m.sequences := by
  cases c with
  | create ty data => cases hc
  | createAt ty pk data =>
    change (createAt registry t m ty pk data).2.sequences = _
    unfold createAt
    split
    next => rfl
    next =>
      split
      next => rfl
      next => exact sequences_insertRow registry t m _
  | delete ty pk =>
    change (m.delete ty pk).2.sequences = _
    rw [delete_eq]
    split
    · rfl
    · rfl
  | entryOrNew ty pk =>
    change (m.entryOrNew t ty pk).2.sequences = _
    unfold entryOrNew
    split
    · rfl
    · rfl
  | countEntries ty? => cases ty? <;> rfl
  | row ty pk => rfl
  | keys ty after limit => rfl
  | existing ty pks => rfl
  | fetch q => rfl
  | countRows q => rfl
  | entryById u => rfl
  | entryOf ty pk => rfl
  | insertEntries es => rfl
  | mapped ty pks => rfl
  | unmap ty pk => rfl
  | flag => rfl
  | stamp => rfl

/-- A load raises the counter to the last key, and lowers none. -/
theorem sequence_le_load (now : Instant) (m : Memory) (ty : String) (rows : List (Int64 × Json)) (ty' : String) :
    m.sequence ty' ≤ (m.load now ty rows).2.sequence ty' := by
  have hfold : ∀ m : Memory, (rows.foldl (fun m p => m.putRow ⟨ty, p.1, p.2, now⟩) m).sequences = m.sequences := by
    induction rows with
    | nil => exact fun _ => rfl
    | cons p rows ih => exact fun m => ih (m.putRow _)
  simp only [load, sequence_setSequence]
  split
  next hty =>
    subst hty
    simp only [sequence, hfold]
    exact key_le_max_left _ _
  next =>
    simp only [sequence, hfold]
    exact Int64.le_refl _

/-! ## The next key -/

theorem max_lt_nextKey (h : m.HasRoom ty) : max (m.sequence ty) (m.lastKey ty) < m.nextKey ty := key_lt_succ h

theorem sequence_lt_nextKey (h : m.HasRoom ty) : m.sequence ty < m.nextKey ty :=
  Int64.lt_of_le_of_lt (key_le_max_left _ _) (max_lt_nextKey h)

/-- **No counter is negative.** -/
theorem Counted.sequence_nonneg (h : Counted registry m) (ty : String) : 0 ≤ m.sequence ty := by
  induction h with
  | empty => exact Int64.le_refl _
  | @answer m flag t c _ hroom ih =>
    by_cases hc : c.counts = []
    · rw [sequence, sequences_answer hc]
      exact ih
    cases c with
    | create ty' data =>
      change 0 ≤ (create registry t m ty' data).2.sequence ty
      rcases heq : create registry t m ty' data with ⟨_ | r, m'⟩
      · rw [create_error heq]
        exact ih
      · rw [sequence_create heq]
        split
        next hty =>
          subst hty
          exact Int64.le_trans ih (Int64.le_of_lt (sequence_lt_nextKey (hroom ty' List.mem_cons_self)))
        next => exact ih
    | _ => exact absurd rfl hc
  | load now ty' rows _ ih => exact Int64.le_trans ih (sequence_le_load now _ ty' rows ty)

/-- **The next key is positive.** -/
theorem Counted.nextKey_pos (h : Counted registry m) (hroom : m.HasRoom ty) : 0 < m.nextKey ty :=
  Int64.lt_of_le_of_lt (h.sequence_nonneg ty) (sequence_lt_nextKey hroom)

/-- No key is behind the last one. -/
theorem Regular.le_lastKey (hm : m.Regular) (h : pk ∈ Assoc.keys (m.table ty)) : pk ≤ m.lastKey ty := by
  have hlast : (Assoc.keys (m.table ty)).getLast? = (m.table ty).getLast?.map (·.1) := List.getLast?_map
  unfold lastKey
  cases hl : (m.table ty).getLast?.map (·.1) with
  | none =>
    rw [hl, List.getLast?_eq_none_iff] at hlast
    rw [hlast] at h
    cases h
  | some last =>
    rcases eq_or_lt_of_getLast? (hm.ascending ty) (hlast.trans hl) h with rfl | hlt
    · exact Int64.le_refl _
    · exact Int64.le_of_lt hlt

/-- **The next key is free.** -/
theorem Regular.nextKey_not_mem (hm : m.Regular) (hroom : m.HasRoom ty) : m.nextKey ty ∉ Assoc.keys (m.table ty) := by
  intro hmem
  have hlt := Int64.lt_of_le_of_lt (key_le_max_right _ _) (max_lt_nextKey hroom)
  exact Int64.lt_irrefl (Int64.lt_of_lt_of_le hlt (hm.le_lastKey hmem))

/-! ## A row that is created and deleted -/

/-- Every entry is that of a stored row. -/
def NoOrphans (m : Memory) : Prop :=
  ∀ u e, m.mappings.entryById? u = some e → (m.row? e.entityType e.rowKey).isSome = true

/-- The state after a row went in whose key was free and had no entry. -/
structure Fresh (registry : Registry) (t : Moment) (m : Memory) (r : Row) (m' : Memory) : Prop where
  inserted : Inserted registry t m r m'
  free : r.pk ∉ Assoc.keys (m.table r.entityType)
  unmapped : m.mappings.idOf? r.entityType r.pk = none

/-- The entry of a fresh row is new, and there is one where the model tracks public ids. -/
theorem Fresh.mappings_cases {r : Row} (h : Fresh registry t m r m') (hm : m.Regular) :
    (tracks registry r.entityType = true ∧ ∃ e, e.key = r.key ∧ e.publicId ∈ t.draws ∧
        m.mappings.entryById? e.publicId = none ∧ m'.mappings = m.mappings.add e) ∨
      (tracks registry r.entityType = false ∧ m'.mappings = m.mappings) := by
  have hmap := h.inserted.mappings
  split at hmap
  next htracks =>
    obtain ⟨e, rest, hget⟩ := hmap
    rcases hm.coherent.getOrInsert_cases hget with ⟨he, -⟩ | ⟨-, hfree, he, hdraw, heq⟩
    · -- a row without an entry cannot be found to have one
      rw [MappingTable.entryOf?, h.unmapped] at he
      cases he
    · exact .inl ⟨htracks, e, by rw [he]; rfl, hdraw, hfree, heq⟩
  next htracks => exact .inr ⟨Bool.eq_false_iff.2 htracks, hmap⟩

/-- A row goes in as long as an unused id is drawn where an entry is to be made. -/
theorem exists_insertRow (hm : m.Regular) {r : Row}
    (hdraws : tracks registry r.entityType = true → ∃ u ∈ t.draws, m.mappings.entryById? u = none) :
    ∃ m', insertRow registry t m r = (.ok r, m') := by
  unfold insertRow
  simp only
  split
  next htracks =>
    have hentry : ∃ e m', entryOrNew t (m.putRow r) r.entityType r.pk = (.ok e, m') :=
      exists_entryOrNew (hm.putRow r) fun _ => hdraws htracks
    obtain ⟨e, m', he⟩ := hentry
    rw [he]
    exact ⟨m', rfl⟩
  next => exact ⟨_, rfl⟩

/-- A creation succeeds under the same condition, for a registered model. -/
theorem exists_create (hm : m.Regular) {model : Model} (hmodel : registry.get? ty = some model)
    (hdraws : tracks registry ty = true → ∃ u ∈ t.draws, m.mappings.entryById? u = none) (data : Json) :
    ∃ m', create registry t m ty data = (.ok ⟨ty, m.nextKey ty, data, t.now⟩, m') := by
  have hcounted : (m.setSequence ty (m.nextKey ty)).Regular := hm.of_parts rfl hm.coherent
  have hins : ∃ m', insertRow registry t (m.setSequence ty (m.nextKey ty)) ⟨ty, m.nextKey ty, data, t.now⟩ =
      (.ok ⟨ty, m.nextKey ty, data, t.now⟩, m') := exists_insertRow hcounted hdraws
  obtain ⟨m', hins⟩ := hins
  exact ⟨m', by simp only [create, ensureRegistered, hmodel, hins]⟩

/-- **Without orphans, a row that is created is fresh**, as long as the counter has room. -/
theorem Fresh.of_create (hm : m.Regular) (horphans : m.NoOrphans) (hroom : m.HasRoom ty) {data : Json} {r : Row}
    (h : create registry t m ty data = (.ok r, m')) : Fresh registry t m r m' := by
  obtain ⟨rfl, -, hins⟩ := create_ok h
  have hfree := hm.nextKey_not_mem hroom
  refine ⟨hins, hfree, ?_⟩
  rw [Option.eq_none_iff_forall_ne_some]
  intro u hu
  obtain ⟨e, he, hty, hpk⟩ := (hm.coherent.idOf?_eq_some_iff _ _ u).1 hu
  have hrow := horphans u e he
  rw [row?, hty, hpk, (Assoc.get?_eq_none_iff _ _).2 hfree] at hrow
  cases hrow

/-- **Deleting a fresh row undoes its creation**: all rows and all entries are what they were before. -/
theorem Fresh.delete {r : Row} (h : Fresh registry t m r m') (hm : m.Regular) :
    ∃ m'', m'.delete r.entityType r.pk = (true, m'') ∧ m''.table = m.table ∧ m''.mappings = m.mappings ∧
      m''.sequences = m'.sequences := by
  have hrow : (m'.row? r.entityType r.pk).isSome = true := Option.isSome_of_eq_some h.inserted.row?
  refine ⟨(m'.dropRow r.entityType r.pk).unmap r.entityType r.pk, by rw [delete_eq, if_pos hrow], ?_, ?_, rfl⟩
  · funext ty
    have htable : m'.table = (m.putRow r).table := by
      funext ty
      simp only [table, h.inserted.tables]
    change (m'.dropRow r.entityType r.pk).table ty = _
    rw [table_dropRow, htable, table_putRow, table_putRow, if_pos rfl]
    split
    next hty =>
      subst hty
      exact Assoc.remove_putSorted ((Assoc.get?_eq_none_iff _ _).2 h.free) r
    next => rfl
  · change (m'.mappings.remove r.entityType r.pk).2 = _
    rcases h.mappings_cases hm with ⟨-, e, hkey, -, hfree, heq⟩ | ⟨-, heq⟩
    · obtain ⟨hty, hpk⟩ := Prod.mk.inj hkey
      rw [heq, ← hty, ← hpk]
      exact MappingTable.remove_add (by rw [hty, hpk]; exact h.unmapped) hfree
    · rw [heq]
      exact MappingTable.remove_of_unmapped h.unmapped

end Memory

end RowIdentity
