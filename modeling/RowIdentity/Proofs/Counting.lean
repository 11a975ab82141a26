import Mathlib.Algebra.BigOperators.Finprod
import RowIdentity.Proofs.Memory

/-!
# The number of entries

* `Coherent.length_byRow` — the two indexes of a mapping table are of one length;
* `Coherent.size_eq_finsum` — **the size of the table is the sum of its counts by entity type**;
* `MappingTable.size_add`, `size_insert`, `size_remove` — what each operation does to the size;
* `Memory.size_insertEntries`, `Memory.size_unmap` — the size changes by the number that the call returns.
-/

namespace RowIdentity

/-! ## Counts by entity type -/

namespace MappingTable

variable {t : MappingTable}

/-- The rows in the index by public id are those of the other index. -/
theorem Coherent.rows_perm (h : Coherent t) :
    (t.byId.map fun p => (p.2.entityType, p.2.rowKey)).Perm (Assoc.keys t.byRow) := by
  have hmem : ∀ {u e}, (u, e) ∈ t.byId → t.idOf? e.entityType e.rowKey = some u := fun hp =>
    h.idOf_entry _ _ ((mem_byId_iff h _ _).1 hp)
  refine (List.perm_ext_iff_of_nodup ?_ h.rowKeys).2 ?_
  · -- two entries of one row have one public id
    refine List.Nodup.map_on ?_ (List.Nodup.of_map _ h.idKeys)
    rintro ⟨u, e⟩ hp ⟨u', e'⟩ hp' hrow
    obtain ⟨hty, hpk⟩ := Prod.mk.inj hrow
    have hid := hmem hp
    rw [hty, hpk, hmem hp'] at hid
    refine List.inj_on_of_nodup_map h.idKeys hp hp' ?_
    exact (Option.some.inj hid).symm
  · rintro ⟨ty, pk⟩
    constructor
    · intro hrow
      obtain ⟨⟨u, e⟩, hp, hkey⟩ := List.mem_map.1 hrow
      obtain ⟨rfl, rfl⟩ := Prod.mk.inj hkey
      exact List.mem_map_of_mem (f := (·.1)) ((Assoc.get?_eq_some_iff_mem h.rowKeys _ u).1 (hmem hp))
    · intro hrow
      obtain ⟨⟨_, u⟩, hp, rfl⟩ := List.mem_map.1 hrow
      obtain ⟨e, he, rfl, rfl⟩ := h.entry_of_id ty pk u ((Assoc.get?_eq_some_iff_mem h.rowKeys _ u).2 hp)
      exact List.mem_map_of_mem (f := fun p => (p.2.entityType, p.2.rowKey)) ((mem_byId_iff h u e).2 he)

/-- The two indexes are of one length. -/
theorem Coherent.length_byRow (h : Coherent t) : t.byRow.length = t.size := by
  have hlength := h.rows_perm.length_eq
  rw [List.length_map, Assoc.keys, List.length_map] at hlength
  exact hlength.symm

/-- The entity types of the rows that have an entry, one for each of them. -/
def types (t : MappingTable) : List String := t.byRow.map (·.1.1)

theorem countFor_eq_count (t : MappingTable) (ty : String) : t.countFor ty = t.types.count ty := by
  rw [types, List.count_eq_countP, List.countP_map]
  exact List.countP_congr fun p _ => by simp

/-- Only entity types that have entries count. -/
theorem support_countFor_subset (t : MappingTable) : Function.support t.countFor ⊆ t.types.toFinset := by
  intro ty hty
  rw [Function.mem_support, countFor_eq_count] at hty
  exact List.mem_toFinset.2 (List.count_pos_iff.1 (Nat.pos_of_ne_zero hty))

/-- **The size of the table is the sum of its counts by entity type.** -/
theorem Coherent.size_eq_finsum (h : Coherent t) : t.size = ∑ᶠ ty, t.countFor ty := by
  rw [finsum_eq_sum_of_support_subset _ t.support_countFor_subset]
  calc t.size = t.types.length := by rw [types, List.length_map, h.length_byRow]
    _ = ∑ ty ∈ t.types.toFinset, t.types.count ty := (List.sum_toFinset_count_eq_length _).symm
    _ = ∑ ty ∈ t.types.toFinset, t.countFor ty := Finset.sum_congr rfl fun ty _ => (t.countFor_eq_count ty).symm

/-! ## What each operation does to the size -/

theorem size_add {e : MappingEntry} (hid : t.entryById? e.publicId = none) : (t.add e).size = t.size + 1 := by
  unfold size add
  rw [Assoc.put_of_get?_eq_none hid, List.length_append]
  rfl

theorem size_insert (t : MappingTable) (e : MappingEntry) :
    (t.insert e).2.size = t.size + if (t.insert e).1.isInserted then 1 else 0 := by
  rcases insert_cases t e with ⟨u, -, heq⟩ | ⟨-, -, heq⟩ | ⟨-, hid, heq⟩
  · rw [heq]; rfl
  · rw [heq]; rfl
  · rw [heq]; exact size_add hid

theorem Coherent.size_remove (h : Coherent t) (ty : String) (pk : Int64) :
    (t.remove ty pk).2.size + (if (t.remove ty pk).1.isSome then 1 else 0) = t.size := by
  rw [remove_fst, entryOf?, MappingTable.remove]
  cases hrow : t.idOf? ty pk with
  | none => rfl
  | some u =>
    obtain ⟨e, he, -⟩ := h.entry_of_id ty pk u hrow
    rw [Option.bind_some, he]
    exact Assoc.length_remove h.idKeys he

end MappingTable

/-! ## Calls that tell how many entries came or went -/

namespace Memory

variable {m : Memory}

theorem size_insertEntries (m : Memory) (es : List MappingEntry) :
    (m.insertEntries es).2.mappings.size = m.mappings.size + (m.insertEntries es).1 := by
  have hfold : ∀ (es : List MappingEntry) (acc : Nat × MappingTable),
      (es.foldl insertEntry acc).2.size + acc.1 = acc.2.size + (es.foldl insertEntry acc).1 := by
    intro es
    induction es with
    | nil => exact fun _ => rfl
    | cons e es ih =>
      intro acc
      have hrest := ih (insertEntry acc e)
      have hfirst : (insertEntry acc e).2.size + acc.1 = acc.2.size + (insertEntry acc e).1 := by
        change (acc.2.insert e).2.size + acc.1 =
          acc.2.size + if (acc.2.insert e).1.isInserted then acc.1 + 1 else acc.1
        rw [MappingTable.size_insert]
        split <;> omega
      rw [List.foldl_cons]
      omega
  exact hfold es (0, m.mappings)

theorem Regular.size_unmap (h : m.Regular) (ty : String) (pk : Int64) :
    (m.unmap ty pk).mappings.size + (if (m.mappings.remove ty pk).1.isSome then 1 else 0) = m.mappings.size :=
  h.coherent.size_remove ty pk

end Memory

end RowIdentity
