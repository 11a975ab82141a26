import RowIdentity.Proofs.Concurrency.Interference
import RowIdentity.Proofs.Concurrency.Told
import RowIdentity.Proofs.Counting

/-!
# Public ids are stable and unique

An in-memory database is used by calls and loads, in any order.

* `StoreOp`, `World.performAll` — what is done to a database, and the world after many such operations;
* `StoreOp.Releases`, `Spares` — operations that take the entry of a row, and courses of operations that do not;
* `MappingTable.Keeps.entryOf?`, `Coherent.entryOf?_remove` — the entry of a row when entries are added, and when the
  entry of another row goes;
* `Memory.entryOf?_answer`, `World.entryOf?_performAll` — **an entry stays as it is** through a call and through a
  course;
* `publicIds_stable` — an entry is found under its row and under its public id, no other row owns that id, and the
  counts of entries add up, after every course of operations.
-/

namespace RowIdentity

/-! ## Courses of operations -/

/-- What is done to a database. -/
inductive StoreOp where
  /-- Any call of the backend interface. -/
  | call (c : BackendCall)
  /-- Rows are loaded as they are. -/
  | load (entityType : String) (rows : List (Int64 × Json))

namespace World

/-- The world after an operation; each operation takes the next moment. -/
def perform (registry : Registry) (moments : Nat → Moment) (w : World) : StoreOp → World
  | .call c => (w.answer registry moments c).2
  | .load ty rows =>
    { w with memory := (w.memory.load (moments w.calls).now ty rows).2, calls := w.calls + 1 }

/-- The world after a course of operations. -/
def performAll (registry : Registry) (moments : Nat → Moment) (w : World) (ops : List StoreOp) : World :=
  ops.foldl (perform registry moments) w

end World

/-- The operation drops the entry of the row, or it deletes the row and tells so. -/
def StoreOp.Releases (registry : Registry) (moments : Nat → Moment) (ty : String) (pk : Int64) (w : World) :
    StoreOp → Prop
  | .call (.unmap ty' pk') => (ty', pk') = (ty, pk)
  | .call (.delete ty' pk') => (ty', pk') = (ty, pk) ∧ (w.answer registry moments (.delete ty' pk')).1 = .ok true
  | _ => False

/-- No operation of the course releases the row. -/
def Spares (registry : Registry) (moments : Nat → Moment) (ty : String) (pk : Int64) : World → List StoreOp → Prop
  | _, [] => True
  | w, op :: ops =>
    ¬ op.Releases registry moments ty pk w ∧ Spares registry moments ty pk (w.perform registry moments op) ops

variable {registry : Registry} {moments : Nat → Moment} {t : Moment} {m m' : Memory} {w : World} {ty : String}
  {pk : Int64} {e : MappingEntry}

/-! ## The entry of a row -/

namespace MappingTable

variable {table table' : MappingTable}

theorem Keeps.entryOf? (h : Keeps table table') (he : table.entryOf? ty pk = some e) :
    table'.entryOf? ty pk = some e := by
  obtain ⟨u, hu, he⟩ := Option.bind_eq_some_iff.1 he
  exact Option.bind_eq_some_iff.2 ⟨u, h.byRow ty pk u hu, h.byId u e he⟩

/-- The entry of another row may go. -/
theorem Coherent.entryOf?_remove (h : Coherent table) {ty' : String} {pk' : Int64} (hne : (ty', pk') ≠ (ty, pk))
    (he : table.entryOf? ty pk = some e) : (table.remove ty' pk').2.entryOf? ty pk = some e := by
  obtain ⟨hid, hty, hpk⟩ := (h.entryOf?_eq_some_iff ty pk e).1 he
  refine ((h.remove ty' pk').entryOf?_eq_some_iff ty pk e).2 ⟨?_, hty, hpk⟩
  rw [entryById?_remove, if_neg, hid]
  intro hu
  -- the entry is found under its id, so both rows would be its row
  obtain ⟨e', he', rfl, rfl⟩ := h.entry_of_id ty' pk' e.publicId hu
  obtain rfl := Option.some.inj (hid.symm.trans he')
  exact hne (by rw [hty, hpk])

end MappingTable

/-- **No call but a drop or a deletion of the row changes its entry.** -/
theorem Memory.entryOf?_answer (hm : m.Regular) (flag : Bool) (c : BackendCall) (hunmap : c ≠ .unmap ty pk)
    (hdelete : c = .delete ty pk → m.row? ty pk = none) (he : m.mappings.entryOf? ty pk = some e) :
    (m.answer registry flag t c).2.mappings.entryOf? ty pk = some e := by
  by_cases hself : c = .delete ty pk
  · -- there is nothing to delete
    subst hself
    change (m.delete ty pk).2.mappings.entryOf? ty pk = some e
    rw [delete_eq, hdelete rfl]
    exact he
  · have hc := answered registry flag t c m
    generalize (answer registry flag t c m).2 = m' at hc
    cases hc with
    | same => exact he
    | inserted _ hins => exact (hins.keeps hm).entryOf? he
    | deleted ty' pk' =>
      refine hm.coherent.entryOf?_remove (fun heq => hself ?_) he
      obtain ⟨rfl, rfl⟩ := Prod.mk.inj heq
      rfl
    | unmapped ty' pk' =>
      refine hm.coherent.entryOf?_remove (fun heq => hunmap ?_) he
      obtain ⟨rfl, rfl⟩ := Prod.mk.inj heq
      rfl
    | entered ty' pk' hget => exact (MappingTable.Keeps.getOrInsert hm.coherent hget).entryOf? he
    | bulk es =>
      rw [insertEntries_snd]
      exact (MappingTable.Keeps.insertAll _ es).entryOf? he

/-! ## The entry of a row along a course -/

namespace World

variable (registry moments) in
theorem regular_perform (hw : w.memory.Regular) (op : StoreOp) : (w.perform registry moments op).memory.Regular := by
  cases op with
  | call c => exact hw.answer _ c
  | load ty rows => exact hw.load _ ty rows

variable (registry moments) in
theorem regular_performAll (hw : w.memory.Regular) (ops : List StoreOp) :
    (w.performAll registry moments ops).memory.Regular := by
  induction ops generalizing w with
  | nil => exact hw
  | cons op ops ih => exact ih (regular_perform registry moments hw op)

/-- An operation that does not release the row leaves its entry as it is. -/
theorem entryOf?_perform (hw : w.memory.Regular) {op : StoreOp} (hop : ¬ op.Releases registry moments ty pk w)
    (he : w.memory.mappings.entryOf? ty pk = some e) :
    (w.perform registry moments op).memory.mappings.entryOf? ty pk = some e := by
  cases op with
  | call c =>
    refine Memory.entryOf?_answer hw _ c ?_ ?_ he
    · rintro rfl
      exact hop rfl
    · rintro rfl
      refine Option.not_isSome_iff_eq_none.1 fun hrow => hop ⟨rfl, ?_⟩
      change Except.ok (w.memory.delete ty pk).1 = .ok true
      rw [Memory.delete_eq, if_pos hrow]
  | load ty' rows =>
    change (w.memory.load _ ty' rows).2.mappings.entryOf? ty pk = some e
    rw [Memory.mappings_load]
    exact he

/-- **An entry stays as it is until its row is released.** -/
theorem entryOf?_performAll (hw : w.memory.Regular) {ops : List StoreOp} (hops : Spares registry moments ty pk w ops)
    (he : w.memory.mappings.entryOf? ty pk = some e) :
    (w.performAll registry moments ops).memory.mappings.entryOf? ty pk = some e := by
  induction ops generalizing w with
  | nil => exact he
  | cons op ops ih =>
    exact ih (regular_perform registry moments hw op) hops.2 (entryOf?_perform hw hops.1 he)

/-! ## What can be relied on -/

/-- An entry is found under its row and under its public id, and no other row owns that id. -/
structure Holds (registry : Registry) (moments : Nat → Moment) (ty : String) (pk : Int64) (e : MappingEntry)
    (w : World) : Prop where
  byRow : (w.answer registry moments (.entryOf ty pk)).1 = .ok (some e)
  byId : (w.answer registry moments (.entryById e.publicId)).1 = .ok (some e)
  /-- In the index by row. -/
  owner : ∀ ty' pk', w.memory.mappings.idOf? ty' pk' = some e.publicId → ty' = ty ∧ pk' = pk
  /-- In the index by public id. -/
  only : ∀ p ∈ w.memory.mappings.byId, p.2.publicId = e.publicId → p.2 = e

/-- The number of entries, of one entity type or of all, as it is replied. -/
def count (registry : Registry) (moments : Nat → Moment) (w : World) (ty? : Option String) : Except Fault Nat :=
  (w.answer registry moments (.countEntries ty?)).1

/-- The counts of entries add up. -/
structure Accounts (registry : Registry) (moments : Nat → Moment) (w : World) : Prop where
  /-- The total count is the sum of the counts by entity type, only finitely many of which are not zero. -/
  sum : ∃ each : String → Nat, (∀ ty, w.count registry moments (some ty) = .ok (each ty)) ∧
    (Function.support each).Finite ∧ w.count registry moments none = .ok (∑ᶠ ty, each ty)
  /-- Entries that are inserted raise it by the number that is replied. -/
  inserted : ∀ es, ∃ total n, w.count registry moments none = .ok total ∧
    (w.answer registry moments (.insertEntries es)).1 = .ok n ∧
    (w.answer registry moments (.insertEntries es)).2.count registry moments none = .ok (total + n)
  /-- An entry that is dropped lowers it by the number that is replied. -/
  dropped : ∀ ty pk, ∃ total n, w.count registry moments none = .ok (total + n) ∧
    (w.answer registry moments (.unmap ty pk)).1 = .ok n ∧
    (w.answer registry moments (.unmap ty pk)).2.count registry moments none = .ok total

theorem holds_of_entryOf? (hw : w.memory.Regular) (he : w.memory.mappings.entryOf? ty pk = some e) :
    w.Holds registry moments ty pk e := by
  have hcoherent := hw.coherent
  obtain ⟨hid, rfl, rfl⟩ := (hcoherent.entryOf?_eq_some_iff ty pk e).1 he
  refine ⟨congrArg _ he, congrArg _ hid, fun ty' pk' hu => ?_, ?_⟩
  · obtain ⟨e', he', rfl, rfl⟩ := hcoherent.entry_of_id ty' pk' _ hu
    obtain rfl := Option.some.inj (hid.symm.trans he')
    exact ⟨rfl, rfl⟩
  · rintro ⟨u, e'⟩ hp hu
    have he' := (MappingTable.mem_byId_iff hcoherent u e').1 hp
    rw [← hcoherent.publicId_of_entry u e' he', hu, hid] at he'
    exact (Option.some.inj he').symm

variable (registry moments) in
theorem accounts_of_regular (hw : w.memory.Regular) : w.Accounts registry moments where
  sum := ⟨w.memory.mappings.countFor, fun _ => rfl,
    (List.finite_toSet _).subset w.memory.mappings.support_countFor_subset,
    congrArg Except.ok hw.coherent.size_eq_finsum⟩
  inserted := fun es => ⟨_, _, rfl, rfl, congrArg Except.ok (w.memory.size_insertEntries es)⟩
  dropped := fun ty pk => ⟨_, _, congrArg Except.ok (hw.size_unmap ty pk).symm, rfl, rfl⟩

end World

/-- **Public ids are stable and unique.** After every course of operations, an entry that exists is found under its row
and under its public id, and no other row owns that id, until its row is released; and the counts of entries add up. -/
theorem publicIds_stable (registry : Registry) (moments : Nat → Moment) (flag : Bool) (earlier : List StoreOp) :
    let w := (World.empty flag).performAll registry moments earlier
    (∀ ty pk, ∀ e ∈ w.memory.mappings.entriesOf ty pk, ∀ later, Spares registry moments ty pk w later →
      (w.performAll registry moments later).Holds registry moments ty pk e) ∧
    w.Accounts registry moments := by
  intro w
  have hw : w.memory.Regular := World.regular_performAll registry moments .empty earlier
  refine ⟨fun ty pk e he later hlater => ?_, World.accounts_of_regular registry moments hw⟩
  rw [hw.coherent.entriesOf_eq, Option.mem_toList] at he
  exact World.holds_of_entryOf? (World.regular_performAll registry moments hw later)
    (World.entryOf?_performAll hw hlater he)

/-- The entry of a seventh widget, made before the row was stored, outlives a bulk insertion that wants its id for
another row, a deletion of the row in vain, and a load of the row. -/
theorem publicIds_stable_widget :
    (((World.empty true).performAll .widgets .counted
        [.call (.create "shop.widget" .null), .call (.entryOrNew "shop.widget" 7)]).performAll .widgets .counted
          [.call (.insertEntries [⟨.ending 1, "shop.widget", 9, ⟨0, 0⟩⟩, ⟨.ending 5, "shop.widget", 9, ⟨0, 0⟩⟩,
              ⟨.ending 6, "shop.widget", 9, ⟨0, 0⟩⟩]),
            .call (.delete "shop.widget" 7), .load "shop.widget" [(7, .null)]]).Holds .widgets .counted
      "shop.widget" 7 ⟨.ending 1, "shop.widget", 7, ⟨0, 0⟩⟩ :=
  (publicIds_stable .widgets .counted true
      [.call (.create "shop.widget" .null), .call (.entryOrNew "shop.widget" 7)]).1
    "shop.widget" 7 ⟨.ending 1, "shop.widget", 7, ⟨0, 0⟩⟩ (by decide +kernel) _
    ⟨id, ⟨fun h => absurd (Except.ok.inj h.2) (by decide +kernel), ⟨id, trivial⟩⟩⟩

end RowIdentity
