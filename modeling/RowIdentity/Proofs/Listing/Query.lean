import Mathlib.Data.List.Nodup
import Mathlib.Data.List.Perm.Subperm
import RowIdentity.Proofs.Memory

/-!
# What a query finds

* `Memory.stored` — the rows of an entity type, of which no two have one key;
* `sift`, `Memory.select_eq_sift` — **the public ids that a query looks up together are those of the rows by
  themselves**;
* `Memory.mem_select_iff`, `Regular.nodup_select` — the rows that a query selects, each once;
* `Regular.length_select_le` — they are no more than 64 bits can count;
* `RowQuery.page`, `Memory.fetch_eq`, `countRows_eq` — the page that is cut out of them, and their number.
-/

namespace RowIdentity

variable {m : Memory} {q : RowQuery}

/-! ## Stored rows -/

namespace Memory

/-- The rows of an entity type, by ascending key. -/
def stored (m : Memory) (ty : String) : List Row := (m.table ty).map (·.2)

theorem Regular.keys_stored (hm : m.Regular) (ty : String) : (m.stored ty).map (·.pk) = Assoc.keys (m.table ty) := by
  rw [stored, List.map_map, Assoc.keys]
  refine List.map_congr_left fun p hp => ?_
  have hrow : m.row? ty p.1 = some p.2 := (Assoc.get?_eq_some_iff_mem (hm.ascending ty).nodup _ _).2 hp
  exact (hm.filed ty p.1 p.2 hrow).2

/-- No two rows of a list have one key. -/
theorem Regular.nodup_stored (hm : m.Regular) (ty : String) : ((m.stored ty).map (·.pk)).Nodup :=
  hm.keys_stored ty ▸ (hm.ascending ty).nodup

theorem Regular.mem_stored_iff (hm : m.Regular) (ty : String) (r : Row) :
    r ∈ m.stored ty ↔ m.row? ty r.pk = some r := by
  rw [row?, Assoc.get?_eq_some_iff_mem (hm.ascending ty).nodup, stored, List.mem_map]
  constructor
  · rintro ⟨⟨pk, r'⟩, hp, rfl⟩
    have hrow : m.row? ty pk = some r' := (Assoc.get?_eq_some_iff_mem (hm.ascending ty).nodup _ _).2 hp
    rwa [(hm.filed ty pk r' hrow).2]
  · intro h
    exact ⟨_, h, rfl⟩

/-! ## What a query selects -/

/-- The rows among the given ones that pass the filters of a query, with the public ids that it asks for. -/
def sift (q : RowQuery) (idOf : Int64 → Option Uuid) (rows : List Row) : List AnnotatedRow :=
  ((rows.filter fun r => q.pks.all fun pks => pks.contains r.pk).map fun r =>
    (⟨r, if q.annotated then idOf r.pk else none⟩ : AnnotatedRow)).filter fun a =>
      q.publicId.all fun u => a.publicId == some u

theorem sort_perm (order : Option SortKey) (rows : List AnnotatedRow) : (sort order rows).Perm rows := by
  have hsort := fun le => List.mergeSort_perm rows le
  match order with
  | none => exact .refl _
  | some ⟨.pk, .asc⟩ => exact hsort _
  | some ⟨.pk, .desc⟩ => exact (List.reverse_perm _).trans (hsort _)
  | some ⟨.publicId, .asc⟩ => exact hsort _
  | some ⟨.publicId, .desc⟩ => exact (List.reverse_perm _).trans (hsort _)

/-- **A query finds each row with the public id that the row has by itself**, if it asks for public ids. -/
theorem select_eq_sift (m : Memory) (q : RowQuery) :
    m.select q = sort q.order (sift q (m.mappings.idOf? q.entityType) (m.stored q.entityType)) := by
  unfold select sift stored
  refine congrArg (sort q.order) (congrArg (List.filter _) (List.map_congr_left fun r hr => ?_))
  cases q.annotated with
  | false => rfl
  | true => rw [if_pos rfl, if_pos rfl, MappingTable.get?_idsFor, if_pos (List.mem_map_of_mem hr)]

/-- What a query selects: the stored rows that pass its filters, each with its public id. -/
theorem mem_select_iff (m : Memory) (q : RowQuery) (a : AnnotatedRow) :
    a ∈ m.select q ↔
      a.row ∈ m.stored q.entityType ∧ (∀ pks, q.pks = some pks → a.row.pk ∈ pks) ∧
        a.publicId = (if q.annotated then m.mappings.idOf? q.entityType a.row.pk else none) ∧
        ∀ u, q.publicId = some u → a.publicId = some u := by
  obtain ⟨r, id⟩ := a
  rw [select_eq_sift, (sort_perm _ _).mem_iff, sift]
  simp only [List.mem_filter, List.mem_map, Option.all_eq_true, List.contains_iff_mem, beq_iff_eq,
    AnnotatedRow.mk.injEq]
  constructor
  · rintro ⟨⟨_, ⟨hr, hpks⟩, rfl, rfl⟩, hid⟩
    exact ⟨hr, hpks, rfl, hid⟩
  · rintro ⟨hr, hpks, rfl, hid⟩
    exact ⟨⟨r, ⟨hr, hpks⟩, rfl, rfl⟩, hid⟩

/-- No row is selected twice. -/
theorem Regular.nodup_select (hm : m.Regular) (q : RowQuery) : ((m.select q).map (·.row.pk)).Nodup := by
  rw [select_eq_sift, ((sort_perm _ _).map _).nodup_iff]
  refine (List.filter_sublist.map _).nodup ?_
  rw [List.map_map]
  exact (List.filter_sublist.map _).nodup (hm.nodup_stored q.entityType)

/-- There are no more keys than 64 bits can tell apart. -/
theorem Regular.length_select_le (hm : m.Regular) (q : RowQuery) : (m.select q).length ≤ UInt64.size := by
  have hinj : Function.Injective fun pk : Int64 => pk.toBitVec.toNat := by
    intro a b hab
    exact Int64.toBitVec_inj.1 (BitVec.eq_of_toNat_eq hab)
  have hsub : ((m.select q).map (·.row.pk)).map (fun pk => pk.toBitVec.toNat) ⊆ List.range UInt64.size := by
    intro n hn
    obtain ⟨pk, -, rfl⟩ := List.mem_map.1 hn
    exact List.mem_range.2 pk.toBitVec.isLt
  simpa using (((hm.nodup_select q).map hinj).subperm hsub).length_le

end Memory

/-! ## Pages -/

namespace RowQuery

/-- The page of a query. -/
def page {α : Type} (q : RowQuery) (l : List α) : List α :=
  match q.limit with
  | some n => (l.drop q.offset).take n
  | none => l.drop q.offset

theorem map_page {α β : Type} (q : RowQuery) (f : α → β) (l : List α) : (q.page l).map f = q.page (l.map f) := by
  unfold page
  cases q.limit with
  | none => exact List.map_drop
  | some n => rw [List.map_take, List.map_drop]

theorem mem_of_mem_page {α : Type} (q : RowQuery) {l : List α} {a : α} (h : a ∈ q.page l) : a ∈ l := by
  unfold page at h
  split at h
  · exact List.mem_of_mem_drop (List.mem_of_mem_take h)
  · exact List.mem_of_mem_drop h

end RowQuery

theorem RowQuery.isValid_of_annotated (h : q.annotated = true) : q.isValid = true := by
  rw [RowQuery.isValid, h, Bool.or_true]

theorem Memory.fetch_eq (m : Memory) (hq : q.isValid = true) : m.fetch q = .ok (q.page (m.select q)) := by
  rw [fetch, RowQuery.validate, if_pos hq]
  rfl

/-- A query that cuts out no page fetches all it selects. -/
theorem Memory.fetch_eq_select (m : Memory) (hq : q.isValid = true) (hoffset : q.offset = 0) (hlimit : q.limit = none) :
    m.fetch q = .ok (m.select q) := by
  rw [m.fetch_eq hq, RowQuery.page, hlimit, hoffset, List.drop_zero]

theorem Memory.countRows_eq (m : Memory) (hq : q.isValid = true) : m.countRows q = .ok (m.select q).length := by
  rw [countRows, RowQuery.validate, if_pos hq]
  rfl

end RowIdentity
