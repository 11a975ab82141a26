import RowIdentity.Proofs.Action
import RowIdentity.Proofs.Mapping
import RowIdentity.Proofs.Registry

/-!
# The stored state, call by call

* `Memory.row?_putRow`, `Memory.row?_dropRow` — what a write does to the look-ups;
* `Memory.Inserted` — the state after a row went in, with its entry where the model tracks public ids;
* `Memory.create_ok`, `createAt_ok`, `entryOrNew_ok`, … — each call, taken apart once;
* `Memory.Regular` — tables ascend, rows are filed under their own keys, the mapping table is coherent;
* `Memory.Reachable`, `Reachable.regular` — **every state that calls and loads lead to is regular**.
-/

namespace RowIdentity.Memory

variable {registry : Registry} {moments : Nat → Moment} {t : Moment} {m m' : Memory}

/-! ## Writes and look-ups -/

@[simp] theorem row?_unmap (m : Memory) (ty : String) (pk : Int64) : (m.unmap ty pk).row? = m.row? := rfl

/-- Rows depend on the tables alone. -/
theorem row?_congr (h : m'.tables = m.tables) : m'.row? = m.row? := by
  funext ty pk
  simp only [row?, table, h]

/-- The keys of a table are those of the stored rows. -/
theorem mem_keys_table_iff (m : Memory) (ty : String) (pk : Int64) :
    pk ∈ Assoc.keys (m.table ty) ↔ (m.row? ty pk).isSome = true := by
  rw [← not_iff_not, ← Assoc.get?_eq_none_iff, Bool.not_eq_true, Option.isSome_eq_false_iff, Option.isNone_iff_eq_none]
  rfl

theorem table_putRow (m : Memory) (r : Row) (ty : String) :
    (m.putRow r).table ty =
      if r.entityType = ty then Assoc.putSorted (m.table r.entityType) r.pk r else m.table ty := by
  simp only [table, putRow, Assoc.get?_put]
  split
  · rfl
  · rfl

/-- A row that is filed is found under its own key, and nothing else changes. -/
theorem row?_putRow (m : Memory) (r : Row) (ty : String) (pk : Int64) :
    (m.putRow r).row? ty pk = if r.entityType = ty ∧ r.pk = pk then some r else m.row? ty pk := by
  rw [row?, table_putRow]
  by_cases hty : r.entityType = ty
  · subst hty
    by_cases hpk : r.pk = pk
    · simp [hpk]
    · simp [hpk, row?]
  · simp [hty, row?]

/-- The tables without a row. -/
def dropRow (m : Memory) (ty : String) (pk : Int64) : Memory :=
  { m with tables := Assoc.put m.tables ty (Assoc.remove (m.table ty) pk) }

theorem table_dropRow (m : Memory) (ty : String) (pk : Int64) (ty' : String) :
    (m.dropRow ty pk).table ty' = if ty = ty' then Assoc.remove (m.table ty) pk else m.table ty' := by
  simp only [table, dropRow, Assoc.get?_put]
  split
  · rfl
  · rfl

theorem row?_dropRow (m : Memory) (ty : String) (pk : Int64) (ty' : String) (pk' : Int64) :
    (m.dropRow ty pk).row? ty' pk' = if ty = ty' ∧ pk = pk' then none else m.row? ty' pk' := by
  rw [row?, table_dropRow]
  by_cases hty : ty = ty'
  · subst hty
    by_cases hpk : pk = pk'
    · simp [hpk]
    · simp [hpk, row?]
  · simp [hty, row?]

/-! ## Calls, taken apart -/

theorem entryOrNew_ok {ty : String} {pk : Int64} {e : MappingEntry} (h : entryOrNew t m ty pk = (.ok e, m')) :
    ∃ mappings rest, m.mappings.getOrInsert ty pk t.now t.draws = some (e, mappings, rest) ∧
      m' = { m with mappings } := by
  unfold entryOrNew at h
  split at h
  next e' mappings rest hget =>
    obtain ⟨he, hm⟩ := Prod.mk.inj h
    obtain rfl := Except.ok.inj he
    exact ⟨mappings, rest, hget, hm.symm⟩
  next => cases h

theorem entryOrNew_error {ty : String} {pk : Int64} {f : Fault} (h : entryOrNew t m ty pk = (.error f, m')) :
    m' = m := by
  unfold entryOrNew at h
  split at h
  · cases h
  · exact (Prod.mk.inj h).2.symm

/-- The state after a row went in: it is filed, and has an entry where its model tracks public ids. -/
structure Inserted (registry : Registry) (t : Moment) (m : Memory) (r : Row) (m' : Memory) : Prop where
  tables : m'.tables = (m.putRow r).tables
  mappings : if tracks registry r.entityType then
      ∃ e rest, m.mappings.getOrInsert r.entityType r.pk t.now t.draws = some (e, m'.mappings, rest)
    else m'.mappings = m.mappings

theorem insertRow_ok {r r' : Row} (h : insertRow registry t m r = (.ok r', m')) :
    r' = r ∧ Inserted registry t m r m' := by
  unfold insertRow at h
  simp only at h
  split at h
  next htracks =>
    split at h
    next e m₁ he =>
      obtain ⟨mappings, rest, hget, rfl⟩ := entryOrNew_ok he
      obtain ⟨hr, rfl⟩ := Prod.mk.inj h
      exact ⟨(Except.ok.inj hr).symm, rfl, by rw [if_pos htracks]; exact ⟨e, rest, hget⟩⟩
    next => cases h
  next htracks =>
    obtain ⟨hr, rfl⟩ := Prod.mk.inj h
    exact ⟨(Except.ok.inj hr).symm, rfl, by rw [if_neg htracks]; rfl⟩

theorem create_ok {ty : String} {data : Json} {r : Row} (h : create registry t m ty data = (.ok r, m')) :
    r = ⟨ty, m.nextKey ty, data, t.now⟩ ∧ (registry.get? ty).isSome = true ∧ Inserted registry t m r m' := by
  unfold create at h
  split at h
  next => cases h
  next hreg =>
    simp only at h
    split at h
    next r' m₁ hins =>
      cases h
      obtain ⟨rfl, htables, hmappings⟩ := insertRow_ok hins
      refine ⟨rfl, ?_, htables, hmappings⟩
      unfold ensureRegistered at hreg
      cases hg : registry.get? ty with
      | some model => rfl
      | none => simp [hg] at hreg
    next => cases h

theorem create_error {ty : String} {data : Json} {f : Fault} (h : create registry t m ty data = (.error f, m')) :
    m' = m := by
  unfold create at h
  split at h
  next => cases h; rfl
  next =>
    simp only at h
    split at h
    next => cases h
    next => cases h; rfl

theorem createAt_ok {ty : String} {pk : Int64} {data : Json} {r : Row}
    (h : createAt registry t m ty pk data = (.ok r, m')) :
    r = ⟨ty, pk, data, t.now⟩ ∧ m.row? ty pk = none ∧ Inserted registry t m r m' := by
  unfold createAt at h
  split at h
  next => cases h
  next =>
    split at h
    next => cases h
    next hfree =>
      obtain ⟨rfl, hins⟩ := insertRow_ok h
      exact ⟨rfl, hfree, hins⟩

theorem insertRow_error {r : Row} {f : Fault} (h : insertRow registry t m r = (.error f, m')) : m' = m := by
  unfold insertRow at h
  simp only at h
  split at h
  · split at h
    · cases h
    · exact (Prod.mk.inj h).2.symm
  · cases h

theorem createAt_error {ty : String} {pk : Int64} {data : Json} {f : Fault}
    (h : createAt registry t m ty pk data = (.error f, m')) : m' = m := by
  unfold createAt at h
  split at h
  next => cases h; rfl
  next =>
    split at h
    next => cases h; rfl
    next => exact insertRow_error h

/-- A deletion drops the row together with its entry, or finds nothing. -/
theorem delete_eq (m : Memory) (ty : String) (pk : Int64) :
    m.delete ty pk = if (m.row? ty pk).isSome then (true, (m.dropRow ty pk).unmap ty pk) else (false, m) := by
  unfold delete
  split
  next h => simp [h]
  next h => simp [h, dropRow]

theorem insertEntries_snd (m : Memory) (es : List MappingEntry) :
    (m.insertEntries es).2 = { m with mappings := es.foldl (fun t e => (t.insert e).2) m.mappings } := by
  have hfold : ∀ (es : List MappingEntry) (n : Nat) (t : MappingTable),
      (es.foldl insertEntry (n, t)).2 = es.foldl (fun t e => (t.insert e).2) t := by
    intro es
    induction es with
    | nil => intro n t; rfl
    | cons e es ih => intro n t; exact ih _ _
  simp only [insertEntries]
  rw [hfold]

/-- Rows that are loaded are filed one after another. -/
theorem load_snd (now : Instant) (m : Memory) (ty : String) (rows : List (Int64 × Json)) :
    ∃ last, (m.load now ty rows).2 =
      (rows.foldl (fun m p => m.putRow ⟨ty, p.1, p.2, now⟩) m).setSequence ty last :=
  ⟨_, rfl⟩

/-! ## Regular states -/

/-- Tables ascend by key, rows are filed under their own entity type and key, and the mapping table is coherent. -/
structure Regular (m : Memory) : Prop where
  tableKeys : (Assoc.keys m.tables).Nodup
  ascending : ∀ ty, Assoc.Ascending (m.table ty)
  filed : ∀ ty pk r, m.row? ty pk = some r → r.entityType = ty ∧ r.pk = pk
  coherent : m.mappings.Coherent

theorem Regular.empty : Regular empty where
  tableKeys := List.nodup_nil
  ascending := fun _ => List.Pairwise.nil
  filed := fun _ _ _ h => nomatch h
  coherent := .empty

/-- The look-ups see everything that a regular state holds. -/
theorem Regular.filed_of_mem (h : Regular m) {ty : String} {rows : List (Int64 × Row)} (hrows : (ty, rows) ∈ m.tables)
    {pk : Int64} {r : Row} (hr : (pk, r) ∈ rows) : r.entityType = ty ∧ r.pk = pk := by
  have htable : m.table ty = rows := by
    rw [table, (Assoc.get?_eq_some_iff_mem h.tableKeys ty rows).2 hrows]
    rfl
  refine h.filed ty pk r ?_
  rw [row?, Assoc.get?_eq_some_iff_mem (h.ascending ty).nodup, htable]
  exact hr

/-- Tables and entries do not touch each other. -/
theorem Regular.of_parts (h : Regular m) (htables : m'.tables = m.tables) (hmappings : m'.mappings.Coherent) :
    Regular m' where
  tableKeys := htables ▸ h.tableKeys
  ascending := by
    intro ty
    rw [table, htables]
    exact h.ascending ty
  filed := by
    rw [row?_congr htables]
    exact h.filed
  coherent := hmappings

theorem Regular.putRow (h : Regular m) (r : Row) : Regular (m.putRow r) where
  tableKeys := Assoc.nodup_put h.tableKeys _ _
  ascending := by
    intro ty
    rw [table_putRow]
    split
    · exact Assoc.ascending_putSorted (h.ascending _) _ _
    · exact h.ascending ty
  filed := by
    intro ty pk r' hr'
    rw [row?_putRow] at hr'
    split at hr'
    next hkey => exact Option.some.inj hr' ▸ hkey
    next => exact h.filed ty pk r' hr'
  coherent := h.coherent

theorem Regular.dropRow (h : Regular m) (ty : String) (pk : Int64) : Regular (m.dropRow ty pk) where
  tableKeys := Assoc.nodup_put h.tableKeys _ _
  ascending := by
    intro ty'
    rw [table_dropRow]
    split
    · exact Assoc.ascending_remove (h.ascending _) _
    · exact h.ascending ty'
  filed := by
    intro ty' pk' r hr
    rw [row?_dropRow] at hr
    split at hr
    · cases hr
    · exact h.filed ty' pk' r hr
  coherent := h.coherent

theorem Regular.unmap (h : Regular m) (ty : String) (pk : Int64) : Regular (m.unmap ty pk) :=
  h.of_parts rfl (h.coherent.remove ty pk)

theorem Regular.inserted (h : Regular m) {r : Row} (hins : Inserted registry t m r m') : Regular m' := by
  refine (h.putRow r).of_parts hins.tables ?_
  have hmap := hins.mappings
  split at hmap
  next =>
    obtain ⟨e, rest, hget⟩ := hmap
    exact h.coherent.getOrInsert hget
  next => exact hmap ▸ h.coherent

theorem Regular.entryOrNew (h : Regular m) (ty : String) (pk : Int64) : Regular (m.entryOrNew t ty pk).2 := by
  rcases heq : m.entryOrNew t ty pk with ⟨_ | e, m'⟩
  · rw [entryOrNew_error heq]
    exact h
  · obtain ⟨mappings, rest, hget, rfl⟩ := entryOrNew_ok heq
    exact h.of_parts rfl (h.coherent.getOrInsert hget)

theorem Regular.create (h : Regular m) (ty : String) (data : Json) : Regular (m.create registry t ty data).2 := by
  rcases heq : m.create registry t ty data with ⟨_ | r, m'⟩
  · rw [create_error heq]
    exact h
  · exact h.inserted (create_ok heq).2.2

theorem Regular.createAt (h : Regular m) (ty : String) (pk : Int64) (data : Json) :
    Regular (m.createAt registry t ty pk data).2 := by
  rcases heq : m.createAt registry t ty pk data with ⟨_ | r, m'⟩
  · rw [createAt_error heq]
    exact h
  · exact h.inserted (createAt_ok heq).2.2

theorem Regular.delete (h : Regular m) (ty : String) (pk : Int64) : Regular (m.delete ty pk).2 := by
  rw [delete_eq]
  split
  · exact (h.dropRow ty pk).unmap ty pk
  · exact h

theorem Regular.insertEntries (h : Regular m) (es : List MappingEntry) : Regular (m.insertEntries es).2 := by
  rw [insertEntries_snd]
  refine h.of_parts rfl ?_
  have hfold : ∀ mappings : MappingTable, mappings.Coherent →
      (es.foldl (fun t e => (t.insert e).2) mappings).Coherent := by
    induction es with
    | nil => exact fun _ h => h
    | cons e es ih => exact fun mappings h => ih _ (h.insert e)
  exact hfold _ h.coherent

theorem Regular.load (h : Regular m) (now : Instant) (ty : String) (rows : List (Int64 × Json)) :
    Regular (m.load now ty rows).2 := by
  have hfold : ∀ m : Memory, Regular m → Regular (rows.foldl (fun m p => m.putRow ⟨ty, p.1, p.2, now⟩) m) := by
    induction rows with
    | nil => exact fun _ h => h
    | cons p rows ih => exact fun m h => ih _ (h.putRow _)
  obtain ⟨last, heq⟩ := load_snd now m ty rows
  rw [heq]
  exact (hfold m h).of_parts rfl (hfold m h).coherent

/-- **No call breaks regularity.** -/
theorem Regular.answer (h : Regular m) (flag : Bool) (c : BackendCall) : Regular (answer registry flag t c m).2 := by
  cases c with
  | row ty pk => exact h
  | keys ty after limit => exact h
  | existing ty pks => exact h
  | fetch q => exact h
  | countRows q => exact h
  | create ty data => exact h.create ty data
  | createAt ty pk data => exact h.createAt ty pk data
  | delete ty pk => exact h.delete ty pk
  | entryById u => exact h
  | entryOf ty pk => exact h
  | entryOrNew ty pk => exact h.entryOrNew ty pk
  | insertEntries es => exact h.insertEntries es
  | mapped ty pks => exact h
  | unmap ty pk => exact h.unmap ty pk
  | countEntries ty? =>
    cases ty? with
    | none => exact h
    | some ty => exact h
  | flag => exact h
  | stamp => exact h

/-! ## Reachable states -/

/-- A state that calls and loads have led to from the empty database, under whatever flags and at whatever
moments. -/
inductive Reachable (registry : Registry) : Memory → Prop where
  | empty : Reachable registry empty
  | answer {m : Memory} (flag : Bool) (t : Moment) (c : BackendCall) :
      Reachable registry m → Reachable registry (answer registry flag t c m).2
  | load {m : Memory} (now : Instant) (ty : String) (rows : List (Int64 × Json)) :
      Reachable registry m → Reachable registry (m.load now ty rows).2

/-- **Every reachable state is regular.** -/
theorem Reachable.regular (h : Reachable registry m) : Regular m := by
  induction h with
  | empty => exact .empty
  | answer flag t c _ ih => exact ih.answer flag c
  | load now ty rows _ ih => exact ih.load now ty rows

/-- A run leads from reachable states to reachable states. -/
theorem Reachable.run {α : Type} {w : World} (h : Reachable registry w.memory) (moments : Nat → Moment)
    (a : Action α) :
    Reachable registry (World.run registry moments a w).2.memory :=
  World.run_keeps (fun flag t c _ hm => hm.answer flag t c) a h

end RowIdentity.Memory

/-! ## A database of one widget -/

namespace RowIdentity

/-- Digits of UUIDs may be written as numerals. -/
local instance Uuid.base_ne_zero : @NeZero Nat Zero.ofOfNat0 16 := ⟨by decide⟩

/-- A UUID of version 4 with all other bits zero. -/
def Uuid.zeroV4 : Uuid := ⟨List.replicate 12 0 ++ 4 :: List.replicate 3 0 ++ 8 :: List.replicate 15 0, rfl⟩

/-- The start of 1970, with one id to draw. -/
def Moment.start : Moment := ⟨⟨0, 0⟩, .zeroV4, []⟩

/-- The first widget. -/
def Row.widget : Row := ⟨"shop.widget", 1, .null, ⟨0, 0⟩⟩

/-- A database in which the first widget was created. -/
def World.widget (flag : Bool) : World :=
  ⟨(Memory.answer .widgets flag .start (.create "shop.widget" .null) .empty).2, .of flag, 0⟩

theorem Memory.reachable_widget (flag : Bool) : Reachable .widgets (World.widget flag).memory :=
  .answer flag .start (.create "shop.widget" .null) .empty

/-! ## A database of two widgets -/

/-- UUIDs of version 4 that differ in their last digit. -/
def Uuid.ending (d : Fin 16) : Uuid :=
  ⟨List.replicate 12 0 ++ 4 :: List.replicate 3 0 ++ 8 :: List.replicate 14 0 ++ [d], rfl⟩

/-- Moments that draw an id each, and no id twice among sixteen in a row. -/
def Moment.counted (n : Nat) : Moment := ⟨⟨0, 0⟩, .ending (Fin.ofNat 16 n), []⟩

/-- A database of two widgets that were loaded. -/
def World.loaded : World :=
  ⟨(Memory.empty.load ⟨0, 0⟩ "shop.widget" [(1, .null), (2, .null)]).2, .of true, 0⟩

theorem Memory.reachable_loaded : Reachable .widgets World.loaded.memory := .load _ _ _ .empty

end RowIdentity
