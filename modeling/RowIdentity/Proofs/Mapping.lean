import RowIdentity.Mapping
import RowIdentity.Proofs.Assoc

/-!
# The mapping table keeps its two indexes in step

* `MappingTable.Coherent` — the index by public id and the index by row are inverse to each other;
* `Coherent.add`, `Coherent.insert`, `Coherent.getOrInsert`, `Coherent.remove` — **no operation breaks this**;
* `MappingTable.insert_cases` — the three outcomes of an insertion, with all they depend on;
* `Coherent.getOrInsert_cases` — the entry of a row is there, or it is made with an unused draw;
* `Keeps` — the entries of one table are entries of another, as after each operation but a removal;
* `Coherent.entriesOf_eq` — the entry of a row is its only one;
* `get?_idsFor` — **public ids that are looked up together are those looked up one by one**.
-/

namespace RowIdentity.MappingTable

variable {t t' : MappingTable}

/-- No key is double, an entry is found under its own public id and its own row, and each public id of a row is that
of an entry of the row. -/
structure Coherent (t : MappingTable) : Prop where
  idKeys : (Assoc.keys t.byId).Nodup
  rowKeys : (Assoc.keys t.byRow).Nodup
  publicId_of_entry : ∀ u e, t.entryById? u = some e → e.publicId = u
  idOf_entry : ∀ u e, t.entryById? u = some e → t.idOf? e.entityType e.rowKey = some u
  entry_of_id : ∀ ty pk u, t.idOf? ty pk = some u → ∃ e, t.entryById? u = some e ∧ e.entityType = ty ∧ e.rowKey = pk

theorem Coherent.empty : Coherent empty :=
  ⟨List.nodup_nil, List.nodup_nil, fun _ _ h => (nomatch h), fun _ _ h => (nomatch h), fun _ _ _ h => (nomatch h)⟩

/-- **The two indexes are inverse to each other.** -/
theorem Coherent.idOf?_eq_some_iff (h : Coherent t) (ty : String) (pk : Int64) (u : Uuid) :
    t.idOf? ty pk = some u ↔ ∃ e, t.entryById? u = some e ∧ e.entityType = ty ∧ e.rowKey = pk := by
  refine ⟨h.entry_of_id ty pk u, ?_⟩
  rintro ⟨e, he, rfl, rfl⟩
  exact h.idOf_entry u e he

theorem Coherent.entryOf?_eq_some_iff (h : Coherent t) (ty : String) (pk : Int64) (e : MappingEntry) :
    t.entryOf? ty pk = some e ↔ t.entryById? e.publicId = some e ∧ e.entityType = ty ∧ e.rowKey = pk := by
  simp only [entryOf?, Option.bind_eq_some_iff]
  constructor
  · rintro ⟨u, hu, he⟩
    obtain ⟨e', he', hty, hpk⟩ := h.entry_of_id ty pk u hu
    obtain rfl := Option.some.inj (he.symm.trans he')
    exact ⟨(h.publicId_of_entry u e he).symm ▸ he, hty, hpk⟩
  · rintro ⟨he, rfl, rfl⟩
    exact ⟨e.publicId, h.idOf_entry _ e he, he⟩

/-- A row with a public id has an entry that holds it. -/
theorem Coherent.exists_entryOf? (h : Coherent t) {ty : String} {pk : Int64} {u : Uuid}
    (hu : t.idOf? ty pk = some u) :
    ∃ e, t.entryOf? ty pk = some e ∧ e.publicId = u := by
  obtain ⟨e, he, hty, hpk⟩ := h.entry_of_id ty pk u hu
  have hid := h.publicId_of_entry u e he
  exact ⟨e, (h.entryOf?_eq_some_iff ty pk e).2 ⟨hid.symm ▸ he, hty, hpk⟩, hid⟩

/-- The public id of a row is what its entry holds. -/
theorem Coherent.idOf?_eq (h : Coherent t) (ty : String) (pk : Int64) :
    t.idOf? ty pk = (t.entryOf? ty pk).map (·.publicId) := by
  cases hid : t.idOf? ty pk with
  | none => rw [entryOf?, hid, Option.bind_none, Option.map_none]
  | some u =>
    obtain ⟨e, he, rfl⟩ := h.exists_entryOf? hid
    rw [he, Option.map_some]

/-! ## One more entry -/

/-- The table with an entry more, under both indexes. -/
def add (t : MappingTable) (e : MappingEntry) : MappingTable :=
  ⟨Assoc.put t.byId e.publicId e, Assoc.put t.byRow (e.entityType, e.rowKey) e.publicId⟩

@[simp] theorem entryById?_add (t : MappingTable) (e : MappingEntry) (u : Uuid) :
    (t.add e).entryById? u = if e.publicId = u then some e else t.entryById? u :=
  Assoc.get?_put t.byId e.publicId e u

@[simp] theorem idOf?_add (t : MappingTable) (e : MappingEntry) (ty : String) (pk : Int64) :
    (t.add e).idOf? ty pk = if (e.entityType, e.rowKey) = (ty, pk) then some e.publicId else t.idOf? ty pk :=
  Assoc.get?_put t.byRow (e.entityType, e.rowKey) e.publicId (ty, pk)

/-- An insertion finds the row mapped, or the public id taken, or it adds the entry. -/
theorem insert_cases (t : MappingTable) (e : MappingEntry) :
    (∃ u, t.idOf? e.entityType e.rowKey = some u ∧ t.insert e = (.alreadyMapped u, t)) ∨
      (t.idOf? e.entityType e.rowKey = none ∧ (∃ e', t.entryById? e.publicId = some e') ∧
        t.insert e = (.publicIdTaken, t)) ∨
      (t.idOf? e.entityType e.rowKey = none ∧ t.entryById? e.publicId = none ∧
        t.insert e = (.inserted e.publicId, t.add e)) := by
  cases hrow : t.idOf? e.entityType e.rowKey with
  | some u => exact .inl ⟨u, rfl, by simp [insert, hrow]⟩
  | none =>
    cases hid : t.entryById? e.publicId with
    | some e' => exact .inr (.inl ⟨rfl, ⟨e', rfl⟩, by simp [insert, hrow, hid]⟩)
    | none => exact .inr (.inr ⟨rfl, rfl, by simp [insert, hrow, hid, add]⟩)

/-- An entry whose row and public id are free goes in without harm. -/
theorem Coherent.add (h : Coherent t) {e : MappingEntry} (hrow : t.idOf? e.entityType e.rowKey = none)
    (hid : t.entryById? e.publicId = none) : Coherent (t.add e) where
  idKeys := Assoc.nodup_put h.idKeys _ _
  rowKeys := Assoc.nodup_put h.rowKeys _ _
  publicId_of_entry := by
    intro u e' he'
    rw [entryById?_add] at he'
    split at he'
    next hu => exact Option.some.inj he' ▸ hu
    next => exact h.publicId_of_entry u e' he'
  idOf_entry := by
    intro u e' he'
    rw [entryById?_add] at he'
    split at he'
    next hu =>
      obtain rfl := Option.some.inj he'
      rw [idOf?_add, if_pos rfl, hu]
    next =>
      have hidOf := h.idOf_entry u e' he'
      rw [idOf?_add, if_neg, hidOf]
      intro heq
      obtain ⟨hty, hpk⟩ := Prod.mk.inj heq
      rw [← hty, ← hpk, hrow] at hidOf
      cases hidOf
  entry_of_id := by
    intro ty pk u hu
    rw [idOf?_add] at hu
    split at hu
    next heq =>
      obtain ⟨hty, hpk⟩ := Prod.mk.inj heq
      exact ⟨e, by rw [entryById?_add, if_pos (Option.some.inj hu)], hty, hpk⟩
    next =>
      obtain ⟨e', he', hrest⟩ := h.entry_of_id ty pk u hu
      refine ⟨e', ?_, hrest⟩
      rw [entryById?_add, if_neg, he']
      rintro rfl
      rw [hid] at he'
      cases he'

theorem Coherent.insert (h : Coherent t) (e : MappingEntry) : Coherent (t.insert e).2 := by
  rcases insert_cases t e with ⟨u, -, heq⟩ | ⟨-, -, heq⟩ | ⟨hrow, hid, heq⟩
  · rw [heq]; exact h
  · rw [heq]; exact h
  · rw [heq]; exact h.add hrow hid

/-! ## The entry of a row, made when missing -/

/-- A row with an entry keeps it, and one draw is spent. -/
theorem getOrInsert_of_mapped {ty : String} {pk : Int64} {e : MappingEntry} (he : t.entryOf? ty pk = some e)
    (now : Instant) (draw : Uuid) (draws : List Uuid) :
    t.getOrInsert ty pk now (draw :: draws) = some (e, t, draws) := by
  obtain ⟨u, hrow, hid⟩ := Option.bind_eq_some_iff.1 he
  simp [getOrInsert, MappingTable.insert, hrow, hid]

/-- A row without an entry gets one as soon as an unused id is drawn. -/
theorem getOrInsert_of_unmapped {ty : String} {pk : Int64} (hrow : t.idOf? ty pk = none) (now : Instant)
    (draw : Uuid) (draws : List Uuid) :
    t.getOrInsert ty pk now (draw :: draws) =
      if t.entryById? draw = none then
        some (⟨draw, ty, pk, now⟩, t.add ⟨draw, ty, pk, now⟩, draws)
      else t.getOrInsert ty pk now draws := by
  cases hid : t.entryById? draw with
  | some e => simp [getOrInsert, MappingTable.insert, hrow, hid]
  | none =>
    have hown : (t.add ⟨draw, ty, pk, now⟩).entryById? draw = some ⟨draw, ty, pk, now⟩ := by
      rw [entryById?_add, if_pos rfl]
    have hinsert : t.insert ⟨draw, ty, pk, now⟩ = (.inserted draw, t.add ⟨draw, ty, pk, now⟩) := by
      simp only [MappingTable.insert, add, hrow, hid]
    simp only [getOrInsert, hinsert, hown, if_true]

/-- The entry is there and nothing changes, or it is made with a draw that no row has. -/
theorem Coherent.getOrInsert_cases (h : Coherent t) {ty : String} {pk : Int64} {now : Instant}
    {draws rest : List Uuid} {e : MappingEntry} (hget : t.getOrInsert ty pk now draws = some (e, t', rest)) :
    (t.entryOf? ty pk = some e ∧ t' = t) ∨
      (t.idOf? ty pk = none ∧ t.entryById? e.publicId = none ∧ e = ⟨e.publicId, ty, pk, now⟩ ∧
        e.publicId ∈ draws ∧ t' = t.add e) := by
  cases hrow : t.idOf? ty pk with
  | some u =>
    obtain ⟨e', he', -⟩ := h.exists_entryOf? hrow
    cases draws with
    | nil => cases hget
    | cons draw draws =>
      rw [getOrInsert_of_mapped he'] at hget
      cases hget
      exact .inl ⟨he', rfl⟩
  | none =>
    right
    induction draws with
    | nil => cases hget
    | cons draw draws ih =>
      rw [getOrInsert_of_unmapped hrow] at hget
      split at hget
      next hfree =>
        cases hget
        exact ⟨rfl, hfree, rfl, List.mem_cons_self, rfl⟩
      next =>
        obtain ⟨h1, h2, h3, hmem, h4⟩ := ih hget
        exact ⟨h1, h2, h3, List.mem_cons_of_mem _ hmem, h4⟩

theorem Coherent.getOrInsert (h : Coherent t) {ty : String} {pk : Int64} {now : Instant} {draws rest : List Uuid}
    {e : MappingEntry} (hget : t.getOrInsert ty pk now draws = some (e, t', rest)) : Coherent t' := by
  rcases h.getOrInsert_cases hget with ⟨-, rfl⟩ | ⟨hrow, hid, heq, -, rfl⟩
  · exact h
  · refine h.add ?_ hid
    rw [heq]
    exact hrow

/-- Afterwards the row has the entry that was returned. -/
theorem Coherent.entryOf?_getOrInsert (h : Coherent t) {ty : String} {pk : Int64} {now : Instant}
    {draws rest : List Uuid} {e : MappingEntry} (hget : t.getOrInsert ty pk now draws = some (e, t', rest)) :
    t'.entryOf? ty pk = some e := by
  have ht' := h.getOrInsert hget
  rcases h.getOrInsert_cases hget with ⟨he, rfl⟩ | ⟨-, -, heq, -, rfl⟩
  · exact he
  · rw [ht'.entryOf?_eq_some_iff, entryById?_add, if_pos rfl, heq]
    exact ⟨rfl, rfl, rfl⟩

/-- It fails only when every draw is taken. -/
theorem Coherent.getOrInsert_isSome (h : Coherent t) (ty : String) (pk : Int64) (now : Instant) {draws : List Uuid}
    (hfree : ∃ u ∈ draws, t.entryById? u = none) : (t.getOrInsert ty pk now draws).isSome = true := by
  cases hrow : t.idOf? ty pk with
  | some u =>
    obtain ⟨e, he, -⟩ := h.exists_entryOf? hrow
    cases draws with
    | nil => simp at hfree
    | cons draw draws => rw [getOrInsert_of_mapped he]; rfl
  | none =>
    induction draws with
    | nil => simp at hfree
    | cons draw draws ih =>
      rw [getOrInsert_of_unmapped hrow]
      split
      next => rfl
      next htaken =>
        obtain ⟨u, hu, hnone⟩ := hfree
        rcases List.mem_cons.1 hu with rfl | hu
        · exact absurd hnone htaken
        · exact ih ⟨u, hu, hnone⟩

/-! ## Tables that lose no entry -/

/-- Every entry of the one table is in the other, under both indexes. -/
structure Keeps (t t' : MappingTable) : Prop where
  byId : ∀ u e, t.entryById? u = some e → t'.entryById? u = some e
  byRow : ∀ ty pk u, t.idOf? ty pk = some u → t'.idOf? ty pk = some u

namespace Keeps

theorem refl (t : MappingTable) : Keeps t t := ⟨fun _ _ h => h, fun _ _ _ h => h⟩

theorem trans {t'' : MappingTable} (h : Keeps t t') (h' : Keeps t' t'') : Keeps t t'' :=
  ⟨fun u e he => h'.byId u e (h.byId u e he), fun ty pk u hu => h'.byRow ty pk u (h.byRow ty pk u hu)⟩

theorem isSome_idOf? (h : Keeps t t') {ty : String} {pk : Int64} (hid : (t.idOf? ty pk).isSome = true) :
    (t'.idOf? ty pk).isSome = true := by
  obtain ⟨u, hu⟩ := Option.isSome_iff_exists.1 hid
  rw [h.byRow ty pk u hu]
  rfl

/-- An entry whose row and public id are free takes no other's place. -/
theorem add {e : MappingEntry} (hrow : t.idOf? e.entityType e.rowKey = none)
    (hid : t.entryById? e.publicId = none) : Keeps t (t.add e) where
  byId := by
    intro u e' he'
    rw [entryById?_add, if_neg, he']
    rintro rfl
    rw [hid] at he'
    cases he'
  byRow := by
    intro ty pk u hu
    rw [idOf?_add, if_neg, hu]
    rintro heq
    obtain ⟨rfl, rfl⟩ := Prod.mk.inj heq
    rw [hrow] at hu
    cases hu

theorem insert (t : MappingTable) (e : MappingEntry) : Keeps t (t.insert e).2 := by
  rcases insert_cases t e with ⟨u, -, heq⟩ | ⟨-, -, heq⟩ | ⟨hrow, hid, heq⟩
  · rw [heq]; exact .refl t
  · rw [heq]; exact .refl t
  · rw [heq]; exact .add hrow hid

/-- Entries that are inserted one after another. -/
theorem insertAll (t : MappingTable) (es : List MappingEntry) : Keeps t (es.foldl (fun t e => (t.insert e).2) t) := by
  induction es generalizing t with
  | nil => exact .refl t
  | cons e es ih => exact (insert t e).trans (ih _)

theorem getOrInsert (h : Coherent t) {ty : String} {pk : Int64} {now : Instant} {draws rest : List Uuid}
    {e : MappingEntry} (hget : t.getOrInsert ty pk now draws = some (e, t', rest)) : Keeps t t' := by
  rcases h.getOrInsert_cases hget with ⟨-, rfl⟩ | ⟨hrow, hid, heq, -, rfl⟩
  · exact .refl _
  · refine .add ?_ hid
    rw [heq]
    exact hrow

end Keeps

/-- Entries under different unused ids go in one after another, unless their rows have entries. -/
theorem isSome_idOf?_insertAll {es : List MappingEntry} (hnodup : (es.map (·.publicId)).Nodup)
    (hfree : ∀ e ∈ es, t.entryById? e.publicId = none) {e : MappingEntry} (he : e ∈ es) :
    ((es.foldl (fun t e => (t.insert e).2) t).idOf? e.entityType e.rowKey).isSome = true := by
  induction es generalizing t with
  | nil => cases he
  | cons e₀ es ih =>
    obtain ⟨hnew, hnodup⟩ := List.nodup_cons.1 hnodup
    rw [List.foldl_cons]
    have hinsert : ((t.insert e₀).2.idOf? e₀.entityType e₀.rowKey).isSome = true ∧
        ∀ u, u ≠ e₀.publicId → (t.insert e₀).2.entryById? u = t.entryById? u := by
      rcases insert_cases t e₀ with ⟨u, hu, heq⟩ | ⟨-, ⟨e', he'⟩, -⟩ | ⟨-, -, heq⟩
      · rw [heq, hu]
        exact ⟨rfl, fun _ _ => rfl⟩
      · rw [hfree e₀ List.mem_cons_self] at he'
        cases he'
      · rw [heq]
        exact ⟨by rw [idOf?_add, if_pos rfl]; rfl, fun u hu => by rw [entryById?_add, if_neg hu.symm]⟩
    rcases List.mem_cons.1 he with rfl | he
    · exact (Keeps.insertAll _ es).isSome_idOf? hinsert.1
    · refine ih hnodup (fun e' he' => ?_) he
      rw [hinsert.2 e'.publicId fun heq => hnew (List.mem_map.2 ⟨e', he', heq⟩)]
      exact hfree e' (List.mem_cons_of_mem _ he')

/-! ## One entry less -/

@[simp] theorem idOf?_remove (t : MappingTable) (ty : String) (pk : Int64) (ty' : String) (pk' : Int64) :
    (t.remove ty pk).2.idOf? ty' pk' = if (ty, pk) = (ty', pk') then none else t.idOf? ty' pk' := by
  unfold remove
  split
  next hrow =>
    split
    next heq =>
      obtain ⟨rfl, rfl⟩ := Prod.mk.inj heq
      exact hrow
    next => rfl
  next => exact Assoc.get?_remove _ _ _

/-- The entry that is returned is the one of the row. -/
theorem remove_fst (t : MappingTable) (ty : String) (pk : Int64) : (t.remove ty pk).1 = t.entryOf? ty pk := by
  unfold remove entryOf?
  cases t.idOf? ty pk <;> rfl

/-- The entry that goes is the one of the row. -/
theorem entryById?_remove (t : MappingTable) (ty : String) (pk : Int64) (u : Uuid) :
    (t.remove ty pk).2.entryById? u = if t.idOf? ty pk = some u then none else t.entryById? u := by
  unfold remove
  split
  next hrow => simp [hrow]
  next id hrow =>
    simp only [hrow, Option.some.injEq]
    exact Assoc.get?_remove _ _ _

theorem Coherent.remove (h : Coherent t) (ty : String) (pk : Int64) : Coherent (t.remove ty pk).2 where
  idKeys := by
    unfold MappingTable.remove
    split
    · exact h.idKeys
    · exact Assoc.nodup_remove h.idKeys _
  rowKeys := by
    unfold MappingTable.remove
    split
    · exact h.rowKeys
    · exact Assoc.nodup_remove h.rowKeys _
  publicId_of_entry := by
    intro u e he
    rw [entryById?_remove] at he
    split at he
    · cases he
    · exact h.publicId_of_entry u e he
  idOf_entry := by
    intro u e he
    rw [entryById?_remove] at he
    split at he
    next => cases he
    next hne =>
      have hidOf := h.idOf_entry u e he
      rw [idOf?_remove, if_neg, hidOf]
      intro heq
      obtain ⟨hty, hpk⟩ := Prod.mk.inj heq
      exact hne (by rw [hty, hpk, hidOf])
  entry_of_id := by
    intro ty' pk' u hu
    rw [idOf?_remove] at hu
    split at hu
    next => cases hu
    next hne =>
      obtain ⟨e, he, hty, hpk⟩ := h.entry_of_id ty' pk' u hu
      refine ⟨e, ?_, hty, hpk⟩
      rw [entryById?_remove, if_neg, he]
      intro hu'
      -- a public id of both rows would make them one
      obtain ⟨e', he', hty', hpk'⟩ := h.entry_of_id ty pk u hu'
      obtain rfl := Option.some.inj (he.symm.trans he')
      exact hne (by rw [← hty, ← hpk, hty', hpk'])

/-! ## The entries of a row -/

/-- All entries of a row. -/
def entriesOf (t : MappingTable) (ty : String) (pk : Int64) : List MappingEntry :=
  (t.byId.map (·.2)).filter fun e => e.entityType = ty ∧ e.rowKey = pk

theorem mem_byId_iff (h : Coherent t) (u : Uuid) (e : MappingEntry) : (u, e) ∈ t.byId ↔ t.entryById? u = some e :=
  (Assoc.get?_eq_some_iff_mem h.idKeys u e).symm

/-- **The entry a look-up finds is the only one of its row.** -/
theorem Coherent.entriesOf_eq (h : Coherent t) (ty : String) (pk : Int64) :
    t.entriesOf ty pk = (t.entryOf? ty pk).toList := by
  have hmem : ∀ e, (e.publicId, e) ∈ t.byId ∧ e.entityType = ty ∧ e.rowKey = pk ↔ t.entryOf? ty pk = some e := by
    intro e
    rw [mem_byId_iff h, h.entryOf?_eq_some_iff]
  have hkey : ∀ p ∈ t.byId, p = (p.2.publicId, p.2) := by
    rintro ⟨u, e⟩ hp
    rw [h.publicId_of_entry u e ((mem_byId_iff h u e).1 hp)]
  unfold entriesOf
  rw [List.filter_map]
  cases he : t.entryOf? ty pk with
  | none =>
    rw [Option.toList_none, List.map_eq_nil_iff, List.filter_eq_nil_iff]
    intro p hp hrow
    have := (hmem p.2).1 ⟨hkey p hp ▸ hp, by simpa using hrow⟩
    rw [he] at this
    cases this
  | some e =>
    -- among the pairs of the table the test singles out that of `e`
    have htest : ∀ p ∈ t.byId, (fun p : Uuid × MappingEntry => decide (p.2.entityType = ty ∧ p.2.rowKey = pk)) p =
        decide (p = (e.publicId, e)) := by
      intro p hp
      rw [decide_eq_decide]
      constructor
      · intro hrow
        have := (hmem p.2).1 ⟨hkey p hp ▸ hp, hrow⟩
        rw [he] at this
        rw [hkey p hp, ← Option.some.inj this]
      · rintro rfl
        exact ((hmem e).2 he).2
    have hnodup : t.byId.Nodup := List.Nodup.of_map _ h.idKeys
    have hcount : t.byId.count (e.publicId, e) = 1 := List.count_eq_one_of_mem hnodup ((hmem e).2 he).1
    have hfilter := (List.filter_congr htest).trans (List.filter_eq (e.publicId, e))
    rw [hcount] at hfilter
    exact congrArg (List.map (·.2)) hfilter

/-! ## Public ids of many rows -/

theorem mem_mapped_iff (t : MappingTable) (ty : String) (pks : List Int64) (pk : Int64) :
    pk ∈ t.mapped ty pks ↔ pk ∈ pks ∧ (t.idOf? ty pk).isSome = true := by
  rw [mapped, List.mem_eraseDups, List.mem_filter]

/-- **Looked up together, each of the rows has the public id that it has by itself.** -/
theorem get?_idsFor (t : MappingTable) (ty : String) (pks : List Int64) (pk : Int64) :
    Assoc.get? (t.idsFor ty pks) pk = if pk ∈ pks then t.idOf? ty pk else none := by
  rw [idsFor, Assoc.get?_filterMap]
  simp only [mem_mapped_iff]
  by_cases hpk : pk ∈ pks
  · cases t.idOf? ty pk <;> simp [hpk]
  · simp [hpk]

end RowIdentity.MappingTable
