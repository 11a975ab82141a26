import RowIdentity.Proofs.Counting
import RowIdentity.Proofs.Listing.Order

/-!
# The share of one entity type

* `Row.timeless`, `MappingEntry.timeless` — data without the times at which they were made;
* `MappingTable.enter` — the table with an entry of a row, made with an unused draw when missing;
* `Write`, `Write.apply` — the writes that operations are made of, entries apart;
* `Memory.Alike` — two states hold the same for one entity type;
* `Memory.alike_apply`, `Memory.alike_enter` — **writes to another entity type leave everything alike**;
* `Memory.Alike.apply`, `Memory.Alike.enter` — the same write to both states leaves them alike.
-/

namespace RowIdentity

/-! ## Times apart -/

def Row.timeless (r : Row) : Row := { r with createdAt := ⟨0, 0⟩ }

def AnnotatedRow.timeless (a : AnnotatedRow) : AnnotatedRow := { a with row := a.row.timeless }

def MappingEntry.timeless (e : MappingEntry) : MappingEntry := { e with createdAt := ⟨0, 0⟩ }

/-! ## Values of association lists -/

namespace Assoc

variable {κ ν μ : Type} [DecidableEq κ]

theorem get?_map (f : ν → μ) (l : List (κ × ν)) (x : κ) : get? (l.map (Prod.map id f)) x = (get? l x).map f := by
  induction l with
  | nil => rfl
  | cons p l ih =>
    obtain ⟨k, v⟩ := p
    rw [List.map_cons, Prod.map_apply, id, get?_cons, get?_cons, ih]
    split
    · rfl
    · rfl

theorem remove_map (f : ν → μ) (l : List (κ × ν)) (x : κ) :
    remove (l.map (Prod.map id f)) x = (remove l x).map (Prod.map id f) := by
  rw [remove, List.filter_map]
  rfl

theorem putSorted_map (f : ν → μ) (l : List (Int64 × ν)) (x : Int64) (w : ν) :
    putSorted (l.map (Prod.map id f)) x (f w) = (putSorted l x w).map (Prod.map id f) := by
  induction l with
  | nil => rfl
  | cons p l ih =>
    obtain ⟨k, v⟩ := p
    rw [List.map_cons, Prod.map_apply, id, putSorted, putSorted, ih]
    split
    · rfl
    · split
      · rfl
      · rfl

end Assoc

/-! ## Entries of rows -/

namespace MappingTable

variable {t : MappingTable} {ty : String} {pk : Int64}

theorem Coherent.entryOf?_add (h : Coherent t) {e : MappingEntry} (hid : t.entryById? e.publicId = none) (ty : String)
    (pk : Int64) :
    (t.add e).entryOf? ty pk = if (e.entityType, e.rowKey) = (ty, pk) then some e else t.entryOf? ty pk := by
  rw [entryOf?, idOf?_add]
  split
  · rw [Option.bind_some, entryById?_add, if_pos rfl]
  · rw [entryOf?]
    refine Option.bind_congr fun u hu => ?_
    obtain ⟨e', he', -⟩ := h.entry_of_id ty pk u hu
    rw [entryById?_add, if_neg]
    rintro rfl
    rw [hid] at he'
    cases he'

theorem Coherent.entryOf?_remove_eq (h : Coherent t) (ty : String) (pk : Int64) (ty' : String) (pk' : Int64) :
    (t.remove ty pk).2.entryOf? ty' pk' = if (ty, pk) = (ty', pk') then none else t.entryOf? ty' pk' := by
  rw [entryOf?, idOf?_remove]
  split
  next => rfl
  next hne =>
    rw [entryOf?]
    refine Option.bind_congr fun u hu => ?_
    rw [entryById?_remove, if_neg]
    intro hu'
    -- a public id of both rows would make them one
    obtain ⟨e, he, rfl, rfl⟩ := h.entry_of_id ty pk u hu'
    obtain ⟨e', he', rfl, rfl⟩ := h.entry_of_id ty' pk' u hu
    obtain rfl := Option.some.inj (he.symm.trans he')
    exact hne rfl

theorem countFor_add {e : MappingEntry} (hrow : t.idOf? e.entityType e.rowKey = none) (ty : String) :
    (t.add e).countFor ty = t.countFor ty + if e.entityType = ty then 1 else 0 := by
  rw [countFor, add, Assoc.put_of_get?_eq_none hrow, List.countP_append, List.countP_singleton]
  simp [countFor]

theorem Coherent.countFor_remove (h : Coherent t) (ty : String) (pk : Int64) (ty' : String) :
    (t.remove ty pk).2.countFor ty' + (if ty = ty' ∧ (t.idOf? ty pk).isSome then 1 else 0) = t.countFor ty' := by
  unfold MappingTable.remove
  cases hrow : t.idOf? ty pk with
  | none => simp
  | some u =>
    have hcount := Assoc.countP_remove h.rowKeys hrow fun k => decide (k.1 = ty')
    simpa [countFor] using hcount

/-- The table with an entry of a row, made with the draw when it is missing. -/
def enter (t : MappingTable) (ty : String) (pk : Int64) (now : Instant) (draw : Uuid) : MappingTable :=
  if (t.idOf? ty pk).isSome then t else t.add ⟨draw, ty, pk, now⟩

/-- The entry of a row that is made with the draw when it is missing. -/
def entered (t : MappingTable) (ty : String) (pk : Int64) (now : Instant) (draw : Uuid) : MappingEntry :=
  (t.entryOf? ty pk).getD ⟨draw, ty, pk, now⟩

/-- An unused draw is taken at once. -/
theorem Coherent.getOrInsert_of_free (h : Coherent t) {draw : Uuid} (hfree : t.entryById? draw = none) (ty : String)
    (pk : Int64) (now : Instant) (more : List Uuid) :
    t.getOrInsert ty pk now (draw :: more) =
      some (t.entered ty pk now draw, t.enter ty pk now draw, more) := by
  rw [enter, h.idOf?_eq, entered]
  cases he : t.entryOf? ty pk with
  | none =>
    have hrow : t.idOf? ty pk = none := by rw [h.idOf?_eq, he]; rfl
    rw [getOrInsert_of_unmapped hrow, if_pos hfree]
    rfl
  | some e => exact getOrInsert_of_mapped he now draw more

theorem Coherent.entryOf?_enter (h : Coherent t) {draw : Uuid} (hfree : t.entryById? draw = none) (ty : String)
    (pk : Int64) (now : Instant) (ty' : String) (pk' : Int64) :
    (t.enter ty pk now draw).entryOf? ty' pk' =
      if (ty, pk) = (ty', pk') then some (t.entered ty pk now draw) else t.entryOf? ty' pk' := by
  rw [MappingTable.enter, entered, h.idOf?_eq]
  cases he : t.entryOf? ty pk with
  | none => exact h.entryOf?_add hfree ty' pk'
  | some e =>
    split
    next => split <;> simp_all
    next hnone => cases hnone rfl

theorem Coherent.countFor_enter (h : Coherent t) {draw : Uuid} (ty : String) (pk : Int64) (now : Instant)
    (ty' : String) :
    (t.enter ty pk now draw).countFor ty' =
      t.countFor ty' + if ty = ty' ∧ (t.entryOf? ty pk).isNone then 1 else 0 := by
  rw [MappingTable.enter, h.idOf?_eq]
  cases he : t.entryOf? ty pk with
  | none =>
    have hrow : t.idOf? ty pk = none := by rw [h.idOf?_eq, he]; rfl
    exact (countFor_add (e := ⟨draw, ty, pk, now⟩) hrow ty').trans (by simp)
  | some e => simp

end MappingTable

/-! ## Writes -/

/-- A write to the share of an entity type; entries are made apart from these. -/
inductive Write where
  /-- Files a row under its key. -/
  | row (entityType : String) (pk : Int64) (data : Json)
  /-- Counts the next key. -/
  | next (entityType : String)
  /-- Raises the counter to the last key. -/
  | raise (entityType : String)
  /-- Drops a row. -/
  | drop (entityType : String) (pk : Int64)
  /-- Drops the entry of a row. -/
  | unmap (entityType : String) (pk : Int64)

namespace Write

def entityType : Write → String
  | row ty .. | next ty | raise ty | drop ty _ | unmap ty _ => ty

def apply (now : Instant) (m : Memory) : Write → Memory
  | row ty pk data => m.putRow ⟨ty, pk, data, now⟩
  | next ty => m.setSequence ty (m.nextKey ty)
  | raise ty => m.setSequence ty (max (m.sequence ty) (m.lastKey ty))
  | drop ty pk => m.dropRow ty pk
  | unmap ty pk => m.unmap ty pk

end Write

namespace Memory

variable {m m' m'' : Memory} {ty : String}

/-- A write after which an unused id is unused as before. -/
theorem entryById?_apply (now : Instant) (w : Write) {u : Uuid} (hu : m.mappings.entryById? u = none) :
    (w.apply now m).mappings.entryById? u = none := by
  cases w with
  | unmap ty pk =>
    change (m.mappings.remove ty pk).2.entryById? u = none
    rw [MappingTable.entryById?_remove, hu, ite_self]
  | _ => exact hu

theorem Regular.apply (hm : m.Regular) (now : Instant) (w : Write) : (w.apply now m).Regular := by
  cases w with
  | row ty pk data => exact hm.putRow _
  | next ty => exact hm.of_parts rfl hm.coherent
  | raise ty => exact hm.of_parts rfl hm.coherent
  | drop ty pk => exact hm.dropRow ty pk
  | unmap ty pk => exact hm.unmap ty pk

/-- The state with an entry of a row, made with the first draw when it is missing. -/
def enter (t : Moment) (m : Memory) (ty : String) (pk : Int64) : Memory :=
  { m with mappings := m.mappings.enter ty pk t.now t.draw }

/-! ## States that hold the same for one entity type -/

/-- Two states hold the same rows, times apart, the same counter and the same entries for an entity type. -/
structure Alike (ty : String) (m m' : Memory) : Prop where
  rows : (m.table ty).map (Prod.map id Row.timeless) = (m'.table ty).map (Prod.map id Row.timeless)
  sequence : m.sequence ty = m'.sequence ty
  entries : ∀ pk, (m.mappings.entryOf? ty pk).map MappingEntry.timeless =
    (m'.mappings.entryOf? ty pk).map MappingEntry.timeless
  count : m.mappings.countFor ty = m'.mappings.countFor ty

namespace Alike

theorem refl (ty : String) (m : Memory) : Alike ty m m := ⟨rfl, rfl, fun _ => rfl, rfl⟩

theorem symm (h : Alike ty m m') : Alike ty m' m :=
  ⟨h.rows.symm, h.sequence.symm, fun pk => (h.entries pk).symm, h.count.symm⟩

theorem trans (h : Alike ty m m') (h' : Alike ty m' m'') : Alike ty m m'' :=
  ⟨h.rows.trans h'.rows, h.sequence.trans h'.sequence, fun pk => (h.entries pk).trans (h'.entries pk),
    h.count.trans h'.count⟩

theorem row? (h : Alike ty m m') (pk : Int64) :
    (m.row? ty pk).map Row.timeless = (m'.row? ty pk).map Row.timeless := by
  rw [Memory.row?, Memory.row?, ← Assoc.get?_map, ← Assoc.get?_map, h.rows]

theorem isSome_row? (h : Alike ty m m') (pk : Int64) : (m.row? ty pk).isSome = (m'.row? ty pk).isSome := by
  rw [← Option.isSome_map (f := Row.timeless), h.row?, Option.isSome_map]

theorem keys (h : Alike ty m m') : (m.table ty).map (·.1) = (m'.table ty).map (·.1) := by
  have hkeys := congrArg (List.map (·.1)) h.rows
  rwa [List.map_map, List.map_map] at hkeys

theorem lastKey (h : Alike ty m m') : m.lastKey ty = m'.lastKey ty := by
  rw [Memory.lastKey, Memory.lastKey, ← List.getLast?_map, ← List.getLast?_map, h.keys]

theorem nextKey (h : Alike ty m m') : m.nextKey ty = m'.nextKey ty := by
  rw [Memory.nextKey, Memory.nextKey, h.sequence, h.lastKey]

theorem idOf? (h : Alike ty m m') (hm : m.Regular) (hm' : m'.Regular) (pk : Int64) :
    m.mappings.idOf? ty pk = m'.mappings.idOf? ty pk := by
  have hids := congrArg (Option.map (·.publicId)) (h.entries pk)
  rw [Option.map_map, Option.map_map] at hids
  rw [hm.coherent.idOf?_eq, hm'.coherent.idOf?_eq]
  exact hids

end Alike

/-! ## Writes to another entity type -/

/-- **A write to another entity type leaves everything alike.** -/
theorem alike_apply (hm : m.Regular) (now : Instant) {w : Write} (hw : w.entityType ≠ ty) :
    Alike ty m (w.apply now m) := by
  have hseq : ∀ n, Alike ty m (m.setSequence w.entityType n) := fun n =>
    ⟨rfl, by simp [sequence, setSequence, hw], fun _ => rfl, rfl⟩
  cases w with
  | row ty' pk data =>
    refine ⟨congrArg (List.map _) ?_, rfl, fun _ => rfl, rfl⟩
    exact ((table_putRow m _ ty).trans (if_neg hw)).symm
  | next ty' => exact hseq _
  | raise ty' => exact hseq _
  | drop ty' pk =>
    refine ⟨congrArg (List.map _) ?_, rfl, fun _ => rfl, rfl⟩
    exact ((table_dropRow m ty' pk ty).trans (if_neg hw)).symm
  | unmap ty' pk =>
    refine ⟨rfl, rfl, fun pk' => congrArg (Option.map _) ?_, ?_⟩
    · refine ((hm.coherent.entryOf?_remove_eq ty' pk ty pk').trans (if_neg ?_)).symm
      exact fun heq => hw (Prod.mk.inj heq).1
    · have hcount := hm.coherent.countFor_remove ty' pk ty
      rw [if_neg fun h => hw h.1] at hcount
      exact hcount.symm

/-- So does an entry that is made for a row of another entity type. -/
theorem alike_enter (hm : m.Regular) {t : Moment} (hfree : m.mappings.entryById? t.draw = none) {ty' : String}
    (hne : ty' ≠ ty) (pk : Int64) : Alike ty m (m.enter t ty' pk) := by
  refine ⟨rfl, rfl, fun pk' => congrArg (Option.map _) ?_, ?_⟩
  · refine ((hm.coherent.entryOf?_enter hfree ty' pk t.now ty pk').trans (if_neg ?_)).symm
    exact fun heq => hne (Prod.mk.inj heq).1
  · refine ((hm.coherent.countFor_enter ty' pk t.now ty).trans ?_).symm
    rw [if_neg fun h => hne h.1]
    rfl

/-! ## The same write to both states -/

/-- **The same write to both states leaves them alike**, at whatever times. -/
theorem Alike.apply (h : Alike ty m m') (hm : m.Regular) (hm' : m'.Regular) (now now' : Instant) {w : Write}
    (hw : w.entityType = ty) : Alike ty (w.apply now m) (w.apply now' m') := by
  have hseq : ∀ n, Alike ty (m.setSequence ty n) (m'.setSequence ty n) := fun n =>
    ⟨h.rows, by simp [Memory.sequence, setSequence], h.entries, h.count⟩
  cases w with
  | row ty' pk data =>
    obtain rfl : ty' = ty := hw
    refine ⟨?_, h.sequence, h.entries, h.count⟩
    simp only [Write.apply, table_putRow, if_true]
    rw [← Assoc.putSorted_map, ← Assoc.putSorted_map, h.rows]
    rfl
  | next ty' =>
    obtain rfl : ty' = ty := hw
    simp only [Write.apply, h.nextKey]
    exact hseq _
  | raise ty' =>
    obtain rfl : ty' = ty := hw
    simp only [Write.apply, h.sequence, h.lastKey]
    exact hseq _
  | drop ty' pk =>
    obtain rfl : ty' = ty := hw
    refine ⟨?_, h.sequence, h.entries, h.count⟩
    simp only [Write.apply, table_dropRow, if_true]
    rw [← Assoc.remove_map, ← Assoc.remove_map, h.rows]
  | unmap ty' pk =>
    obtain rfl : ty' = ty := hw
    refine ⟨h.rows, h.sequence, fun pk' => ?_, ?_⟩
    · change ((m.mappings.remove _ pk).2.entryOf? _ pk').map _ = ((m'.mappings.remove _ pk).2.entryOf? _ pk').map _
      rw [hm.coherent.entryOf?_remove_eq, hm'.coherent.entryOf?_remove_eq]
      split
      · rfl
      · exact h.entries pk'
    · have hcount := hm.coherent.countFor_remove ty' pk ty'
      have hcount' := hm'.coherent.countFor_remove ty' pk ty'
      rw [← h.idOf? hm hm' pk, ← h.count] at hcount'
      exact Nat.add_right_cancel (hcount.trans hcount'.symm)

theorem Alike.entered (h : Alike ty m m') (pk : Int64) (now now' : Instant) (draw : Uuid) :
    (m.mappings.entered ty pk now draw).timeless = (m'.mappings.entered ty pk now' draw).timeless := by
  have hentry := h.entries pk
  rw [MappingTable.entered, MappingTable.entered]
  cases he : m.mappings.entryOf? ty pk with
  | none =>
    rw [he, Option.map_none, eq_comm, Option.map_eq_none_iff] at hentry
    rw [hentry]
    rfl
  | some e =>
    rw [he] at hentry
    obtain ⟨e', he', heq⟩ := Option.map_eq_some_iff.1 hentry.symm
    rw [he']
    exact heq.symm

/-- So does an entry that is made in both with the same draw, which is unused in both. -/
theorem Alike.enter (h : Alike ty m m') (hm : m.Regular) (hm' : m'.Regular) {t t' : Moment} (hdraw : t.draw = t'.draw)
    (hfree : m.mappings.entryById? t.draw = none) (hfree' : m'.mappings.entryById? t'.draw = none) (pk : Int64) :
    Alike ty (m.enter t ty pk) (m'.enter t' ty pk) := by
  refine ⟨h.rows, h.sequence, fun pk' => ?_, ?_⟩
  · change ((m.mappings.enter ty pk t.now t.draw).entryOf? ty pk').map _ =
      ((m'.mappings.enter ty pk t'.now t'.draw).entryOf? ty pk').map _
    rw [hm.coherent.entryOf?_enter hfree, hm'.coherent.entryOf?_enter hfree', ← hdraw]
    split
    · exact congrArg some (h.entered pk t.now t'.now t.draw)
    · exact h.entries pk'
  · have hnone : (m.mappings.entryOf? ty pk).isNone = (m'.mappings.entryOf? ty pk).isNone := by
      rw [← Option.isNone_map (f := MappingEntry.timeless), h.entries, Option.isNone_map]
    refine (hm.coherent.countFor_enter ty pk t.now ty).trans ?_
    rw [hnone, h.count]
    exact (hm'.coherent.countFor_enter ty pk t'.now ty).symm

end Memory

end RowIdentity
