import Mathlib.Algebra.Group.Nat.Defs
import RowIdentity.Proofs.Sql.Meaning

/-!
# Rows in memory and rows of selects

* `Tables.Mirrors` — a SQL database holds the rows and the entries of a state;
* `perm_found`, `countRows_eq_number` — a query finds the same rows in both, and **as many of them**;
* `pairwise_mergeSort_stable`, `Memory.pairwise_sort` — in memory, equals are put along the direction of the order;
* `pairwise_nulls_first` — the order of a select downwards by public id, where equals still ascend by key;
* `RowQuery.page_eq_iff`, `returns_select_iff` — pages, and **the one page that a select returns**;
* `fetch_eq_select_iff`, `fetch_ne_select` — **when a page in memory is the page of the select**, and when not.
-/

namespace RowIdentity

variable {m : Memory} {d : Tables} {q : RowQuery} {table : String}

/-! ## The same data -/

/-- The database holds the rows of one entity type in one table, and all entries. -/
structure Tables.Mirrors (d : Tables) (m : Memory) (ty table : String) : Prop where
  rows : (d.rows table).Perm ((m.stored ty).map fun r => (r.pk, r.data))
  entries : d.entries.Perm (m.mappings.byId.map (·.2))

/-- The sub-select finds the public id of a row. -/
theorem Tables.Mirrors.idOf_eq {ty : String} (hd : d.Mirrors m ty table) (hm : m.Regular) (ty' : String) (pk : Int64) :
    d.idOf ty' pk = m.mappings.idOf? ty' pk := by
  have hfound := hd.entries.filter fun e => e.entityType = ty' ∧ e.rowKey = pk
  rw [show ((m.mappings.byId.map (·.2)).filter fun e => e.entityType = ty' ∧ e.rowKey = pk) = _ from
    hm.coherent.entriesOf_eq ty' pk] at hfound
  have hsame : (d.entries.filter fun e => e.entityType = ty' ∧ e.rowKey = pk) =
      (m.mappings.entryOf? ty' pk).toList := by
    cases hentry : m.mappings.entryOf? ty' pk with
    | none =>
      rw [hentry] at hfound
      exact List.perm_nil.1 hfound
    | some e =>
      rw [hentry] at hfound
      exact List.perm_singleton.1 hfound
  rw [Tables.idOf, hsame, hm.coherent.idOf?_eq]
  cases m.mappings.entryOf? ty' pk <;> rfl

/-- A row with its public id, as a select returns it. -/
def AnnotatedRow.result (a : AnnotatedRow) : ResultRow := ⟨a.row.pk, a.row.data, a.publicId⟩

namespace Memory

/-- The rows that a query finds, by ascending key. -/
def found (m : Memory) (q : RowQuery) : List AnnotatedRow :=
  sift q (m.mappings.idOf? q.entityType) (m.stored q.entityType)

theorem Regular.pairwise_found (hm : m.Regular) (q : RowQuery) :
    (m.found q).Pairwise fun a b => a.row.pk < b.row.pk := by
  have hstored : (m.stored q.entityType).Pairwise fun r r' => r.pk < r'.pk := by
    have hkeys := hm.ascending q.entityType
    rw [Assoc.Ascending, ← hm.keys_stored, List.pairwise_map] at hkeys
    exact hkeys
  refine List.Pairwise.filter _ ?_
  rw [List.pairwise_map]
  exact hstored.filter _

end Memory

/-- **A query finds the same rows in memory and in the database.** -/
theorem perm_found (hm : m.Regular) (hd : d.Mirrors m q.entityType table) (hq : q.isValid = true) :
    ((m.found q).map AnnotatedRow.result).Perm ((RowSelect.ofQuery table false q).found d) := by
  refine .trans (.of_eq ?_) ((hd.rows.filter _).map _).symm
  -- the query reads public ids only if it asks for them
  have hreads (r : Row) : (q.publicId.all fun u =>
        (if q.annotated then m.mappings.idOf? q.entityType r.pk else none) == some u) =
      q.publicId.all fun u => m.mappings.idOf? q.entityType r.pk == some u := by
    cases hid : q.publicId with
    | none => rfl
    | some u =>
      have hannotated : q.annotated = true := by
        simpa [RowQuery.isValid, RowQuery.referencesPublicId, hid] using hq
      rw [if_pos hannotated]
  rw [Memory.found, Memory.sift, List.filter_map, List.filter_map, List.map_map, List.map_map, List.filter_filter]
  refine congr (congrArg List.map ?_) (List.filter_congr fun r _ => ?_)
  · funext r
    simp [AnnotatedRow.result, RowSelect.output, RowSelect.ofQuery, hd.idOf_eq hm]
  · simp only [Function.comp_apply, hreads, RowSelect.holds, RowSelect.ofQuery, hd.idOf_eq hm]
    exact Bool.and_comm _ _

theorem countRows_eq_number (hm : m.Regular) (hd : d.Mirrors m q.entityType table) (hq : q.isValid = true) :
    m.countRows q = .ok ((RowSelect.ofQuery table true q).number d) := by
  have hlength := (perm_found hm hd hq).length_eq
  rw [List.length_map] at hlength
  have hselect : (m.select q).length = (m.found q).length := by
    rw [m.select_eq_sift]
    exact (Memory.sort_perm q.order _).length_eq
  rw [m.countRows_eq hq, hselect, hlength, RowSelect.found, List.length_map]
  rfl

/-! ## Stable sorting -/

/-- Equals keep their order. -/
theorem pairwise_mergeSort_stable {α : Type} {le : α → α → Bool}
    (htrans : ∀ a b c, le a b = true → le b c = true → le a c = true) (htotal : ∀ a b, (le a b || le b a) = true)
    {R : α → α → Prop} {l : List α} (hl : l.Pairwise R) :
    (l.mergeSort le).Pairwise fun a b => le a b = true ∧ (le b a = true → R a b) := by
  rw [← List.mergeSort_zipIdx, List.pairwise_map]
  have hsorted := List.pairwise_mergeSort (List.zipIdxLE_trans htrans) (List.zipIdxLE_total htotal) l.zipIdx
  have hplaces : (l.zipIdx.mergeSort (List.zipIdxLE le)).Pairwise fun a b => a.2 ≠ b.2 := by
    rw [← List.pairwise_map, ← List.nodup_iff_pairwise_ne, ((List.mergeSort_perm _ _).map _).nodup_iff,
      List.zipIdx_map_snd]
    exact List.nodup_range'
  refine (hsorted.and hplaces).imp_of_mem ?_
  rintro ⟨a, i⟩ ⟨b, j⟩ ha hb ⟨hle, hne⟩
  rw [List.mem_mergeSort, List.mem_zipIdx_iff_getElem?, List.getElem?_eq_some_iff] at ha hb
  obtain ⟨hi, ha⟩ := ha
  obtain ⟨hj, hb⟩ := hb
  simp only at ha hb hi hj hne ⊢
  simp only [List.zipIdxLE] at hle
  split at hle
  next hab =>
    refine ⟨hab, fun hba => ?_⟩
    rw [if_pos hba, decide_eq_true_eq] at hle
    rw [← ha, ← hb]
    exact List.pairwise_iff_getElem.1 hl i j hi hj (Nat.lt_of_le_of_ne hle hne)
  next => cases hle

/-! ## The order in memory -/

namespace Memory

/-- The sort keys that the order in memory amounts to: equals are put along its direction. -/
def orderOf : Option SortKey → List SortKey
  | none => [⟨.pk, .asc⟩]
  | some ⟨.pk, d⟩ => [⟨.pk, d⟩]
  | some ⟨.publicId, d⟩ => [⟨.publicId, d⟩, ⟨.pk, d⟩]

theorem pk_mem_orderOf (order : Option SortKey) : ∃ d, ⟨.pk, d⟩ ∈ orderOf order := by
  match order with
  | none => exact ⟨_, List.mem_cons_self⟩
  | some ⟨.pk, d⟩ => exact ⟨_, List.mem_cons_self⟩
  | some ⟨.publicId, d⟩ => exact ⟨_, List.mem_cons_of_mem _ List.mem_cons_self⟩

theorem pairwise_sort_asc {rows : List AnnotatedRow} (h : rows.Pairwise fun a b => a.row.pk < b.row.pk)
    (field : SortField) : ((sort (some ⟨field, .asc⟩) rows).map AnnotatedRow.result).Pairwise
      (Precedes (orderOf (some ⟨field, .asc⟩))) := by
  rw [List.pairwise_map]
  cases field with
  | pk =>
    refine (List.pairwise_mergeSort pkLe_trans pkLe_total rows).imp fun {a b} hab => ?_
    exact .inr ⟨Int64.not_lt.2 (of_decide_eq_true hab), trivial⟩
  | publicId =>
    refine (pairwise_mergeSort_stable ?_ ?_ h).imp fun {a b} hab => ?_
    · exact fun a b c => publicIdLe_trans _ _ _
    · exact fun a b => publicIdLe_total _ _
    · obtain ⟨hle, hties⟩ := hab
      rw [publicIdLe_iff] at hle hties
      by_cases hless : IdLess a.publicId b.publicId
      · exact .inl hless
      · exact .inr ⟨hle, .inl (hties hless)⟩

/-- Rows that ascend by key are put in an order that agrees with its sort keys. -/
theorem pairwise_sort {rows : List AnnotatedRow} (h : rows.Pairwise fun a b => a.row.pk < b.row.pk)
    (order : Option SortKey) :
    ((sort order rows).map AnnotatedRow.result).Pairwise (Precedes (orderOf order)) := by
  match order with
  | none =>
    rw [List.pairwise_map]
    exact h.imp .inl
  | some ⟨field, .asc⟩ => exact pairwise_sort_asc h field
  | some ⟨field, .desc⟩ =>
    have hflip : orderOf (some ⟨field, .desc⟩) = (orderOf (some ⟨field, .asc⟩)).map SortKey.flip := by
      cases field <;> rfl
    change ((sort (some ⟨field, .asc⟩) rows).reverse.map AnnotatedRow.result).Pairwise _
    rw [List.map_reverse, List.pairwise_reverse, hflip]
    exact (pairwise_sort_asc h field).imp fun hab => (precedes_flip _ _ _).2 hab

/-- The rows of a query in memory, as a select returns them. -/
def results (m : Memory) (q : RowQuery) : List ResultRow := (m.select q).map AnnotatedRow.result

theorem results_eq (m : Memory) (q : RowQuery) :
    m.results q = (sort q.order (m.found q)).map AnnotatedRow.result := by
  rw [results, select_eq_sift, found]

theorem Regular.nodup_results (hm : m.Regular) (q : RowQuery) : ((m.results q).map (·.pk)).Nodup := by
  rw [results, List.map_map]
  exact hm.nodup_select q

/-- Memory answers in the order of the query, equals along its direction. -/
theorem Regular.pairwise_results (hm : m.Regular) (q : RowQuery) :
    (m.results q).Pairwise (Precedes (orderOf q.order)) := by
  rw [results_eq]
  exact pairwise_sort (hm.pairwise_found q) q.order

theorem results_perm (hm : m.Regular) (hd : d.Mirrors m q.entityType table) (hq : q.isValid = true) :
    (m.results q).Perm ((RowSelect.ofQuery table false q).found d) := by
  rw [results_eq]
  exact ((sort_perm q.order (m.found q)).map _).trans (perm_found hm hd hq)

end Memory

/-! ## Pages -/

namespace RowQuery

/-- Whether a place of the whole sequence is on the page. -/
def shows (q : RowQuery) (i : Nat) : Bool := q.offset ≤ i && q.limit.all fun n => i < q.offset + n

theorem getElem?_page {α : Type} (q : RowQuery) (l : List α) (i : Nat) :
    (q.page l)[i]? = if q.shows (q.offset + i) then l[q.offset + i]? else none := by
  cases hlimit : q.limit with
  | none => simp [page, shows, hlimit, List.getElem?_drop]
  | some n => simp [page, shows, hlimit, List.getElem?_take, List.getElem?_drop]

theorem page_eq_iff {α : Type} (q : RowQuery) (l l' : List α) :
    q.page l = q.page l' ↔ ∀ i, q.shows i = true → l[i]? = l'[i]? := by
  constructor
  · intro h i hi
    obtain ⟨j, rfl⟩ : ∃ j, i = q.offset + j := by
      simp only [shows, Bool.and_eq_true, decide_eq_true_eq] at hi
      exact ⟨i - q.offset, (Nat.add_sub_cancel' hi.1).symm⟩
    have hplace := congrArg (·[j]?) h
    simpa only [getElem?_page, if_pos hi] using hplace
  · intro h
    refine List.ext_getElem? fun i => ?_
    rw [getElem?_page, getElem?_page]
    split
    next hi => exact h _ hi
    next => rfl

/-- Sizes below 2⁶³ reach the select unchanged. -/
theorem cut_ofQuery {α : Type} (table : String) (hoffset : q.offset < 2 ^ 63)
    (hlimit : ∀ n, q.limit = some n → n < 2 ^ 63) (l : List α) :
    (RowSelect.ofQuery table false q).cut l = q.page l := by
  have hrest : ((RowSelect.ofQuery table false q).offset.getD 0).toNatClampNeg = q.offset := by
    by_cases hzero : q.offset = 0
    · simp [RowSelect.ofQuery, hzero]
    · simp [RowSelect.ofQuery, hzero, RowSelect.word, Int64.toNatClampNeg_ofNat_of_lt hoffset]
  unfold RowSelect.cut page
  rw [hrest]
  cases hn : q.limit with
  | none => simp [RowSelect.ofQuery, hn]
  | some n => simp [RowSelect.ofQuery, hn, RowSelect.word, Int64.toNatClampNeg_ofNat_of_lt (hlimit n hn)]

end RowQuery

theorem RowSelect.word_nonneg {n : Nat} (h : n < 2 ^ 63) : 0 ≤ word n := by
  rw [Int64.le_iff_toInt_le, word, Int64.toInt_ofNat_of_lt h]
  exact Int.natCast_nonneg n

/-! ## Downwards by public id -/

/-- NULLs come first downwards, and they ascend by key as all equals do. -/
theorem pairwise_nulls_first {rows : List ResultRow} (hnodup : (rows.map (·.pk)).Nodup)
    (hinj : ∀ a ∈ rows, ∀ b ∈ rows, ∀ u, a.publicId = some u → b.publicId = some u → a.pk = b.pk)
    (h : rows.Pairwise (Precedes (RowSelect.orderOf (some ⟨.publicId, .asc⟩)))) :
    (rows.filter (fun r => r.publicId.isNone) ++ (rows.filter fun r => r.publicId.isSome).reverse).Pairwise
      (Precedes (RowSelect.orderOf (some ⟨.publicId, .desc⟩))) := by
  rw [List.nodup_iff_pairwise_ne, List.pairwise_map] at hnodup
  refine List.pairwise_append.2 ⟨?_, List.pairwise_reverse.2 ?_, ?_⟩
  · refine (h.filter _).imp_of_mem fun {a b} ha hb hab => ?_
    have ha := Option.isNone_iff_eq_none.1 (List.mem_filter.1 ha).2
    have hb := Option.isNone_iff_eq_none.1 (List.mem_filter.1 hb).2
    have hnot : ¬IdLess a.publicId b.publicId ∧ ¬IdLess b.publicId a.publicId := by
      rw [ha, hb]
      exact ⟨id, id⟩
    exact .inr ⟨hnot.1, (hab.resolve_left hnot.1).2⟩
  · refine ((h.and hnodup).filter _).imp_of_mem fun {a b} ha hb hab => ?_
    obtain ⟨hab, hne⟩ := hab
    obtain ⟨ha, hsome⟩ := List.mem_filter.1 ha
    obtain ⟨u, hu⟩ := Option.isSome_iff_exists.1 hsome
    refine .inl (hab.elim id fun hnot => by_contra fun hless => hne ?_)
    exact hinj a ha b (List.mem_filter.1 hb).1 u hu ((IdLess.eq_of_not hless hnot.1).symm.trans hu)
  · intro a ha b hb
    have ha := Option.isNone_iff_eq_none.1 (List.mem_filter.1 ha).2
    obtain ⟨u, hu⟩ := Option.isSome_iff_exists.1 (List.mem_filter.1 (List.mem_reverse.1 hb)).2
    have hless : IdLess b.publicId a.publicId := by
      rw [ha, hu]
      trivial
    exact .inl hless

/-- A list backwards has the same in one place as forwards in its middle only. -/
theorem getElem?_reverse_append_iff {α : Type} {l : List α} (hl : l.Nodup) (rest : List α) (i : Nat) :
    (l.reverse ++ rest)[i]? = (l ++ rest)[i]? ↔ (i < l.length → 2 * i + 1 = l.length) := by
  by_cases hi : i < l.length
  · rw [List.getElem?_append_left (by simpa using hi), List.getElem?_append_left hi, List.getElem?_reverse hi,
      List.getElem?_eq_getElem (by omega), List.getElem?_eq_getElem hi, Option.some_inj, hl.getElem_inj_iff]
    constructor
    · intro h _
      omega
    · intro h
      have := h hi
      omega
  · rw [List.getElem?_append_right (by simpa using hi), List.getElem?_append_right (by omega), List.length_reverse]
    exact ⟨fun _ h => absurd h hi, fun _ => rfl⟩

namespace Memory

/-- The rows of a query in the order of its select: downwards by public id, the rows without one are turned round. -/
def selected (m : Memory) (q : RowQuery) : List ResultRow :=
  if q.order = some ⟨.publicId, .desc⟩ then
    ((m.results q).filter fun r => r.publicId.isNone).reverse ++ (m.results q).filter fun r => r.publicId.isSome
  else m.results q

/-- No two rows have one public id. -/
theorem Regular.results_inj (hm : m.Regular) :
    ∀ a ∈ m.results q, ∀ b ∈ m.results q, ∀ u, a.publicId = some u → b.publicId = some u → a.pk = b.pk := by
  have hid : ∀ a ∈ m.results q, ∀ u, a.publicId = some u → m.mappings.idOf? q.entityType a.pk = some u := by
    intro a ha u hu
    obtain ⟨a, hfound, rfl⟩ := List.mem_map.1 ha
    rw [select_eq_sift, (sort_perm q.order _).mem_iff, sift, List.mem_filter, List.mem_map] at hfound
    obtain ⟨⟨r, -, rfl⟩, -⟩ := hfound
    simp only [AnnotatedRow.result] at hu ⊢
    split at hu
    · exact hu
    · cases hu
  intro a ha b hb u hu hu'
  obtain ⟨e, he, -, hpk⟩ := hm.coherent.entry_of_id _ _ _ (hid a ha u hu)
  obtain ⟨e', he', -, hpk'⟩ := hm.coherent.entry_of_id _ _ _ (hid b hb u hu')
  obtain rfl := Option.some.inj (he.symm.trans he')
  exact hpk.symm.trans hpk'

theorem Regular.pairwise_selected (hm : m.Regular) (q : RowQuery) :
    (m.selected q).Pairwise (Precedes (RowSelect.orderOf q.order)) := by
  unfold selected
  split
  next hdesc =>
    have hsorted := hm.pairwise_results { q with order := some ⟨.publicId, .asc⟩ }
    have hreverse : m.results q = (m.results { q with order := some ⟨.publicId, .asc⟩ }).reverse := by
      rw [results_eq, results_eq, hdesc]
      exact List.map_reverse
    rw [hdesc, hreverse, List.filter_reverse, List.filter_reverse, List.reverse_reverse]
    exact pairwise_nulls_first (hm.nodup_results _) hm.results_inj hsorted
  next hdesc =>
    have hsame : RowSelect.orderOf q.order = orderOf q.order := by
      match horder : q.order with
      | none => rfl
      | some ⟨.pk, _⟩ => rfl
      | some ⟨.publicId, .asc⟩ => rfl
      | some ⟨.publicId, .desc⟩ => exact absurd horder hdesc
    rw [hsame]
    exact hm.pairwise_results q

theorem selected_perm (m : Memory) (q : RowQuery) : (m.selected q).Perm (m.results q) := by
  unfold selected
  split
  · refine ((List.reverse_perm _).append_right _).trans ?_
    simpa only [Option.not_isNone] using List.filter_append_perm (fun r => r.publicId.isNone) (m.results q)
  · exact .refl _

end Memory

/-! ## Agreement -/

theorem RowSelect.pk_mem_orderOf (order : Option SortKey) : ∃ dir, ⟨.pk, dir⟩ ∈ orderOf order := by
  match order with
  | none => exact ⟨_, List.mem_cons_self⟩
  | some ⟨.pk, _⟩ => exact ⟨_, List.mem_cons_self⟩
  | some ⟨.publicId, _⟩ => exact ⟨_, List.mem_cons_of_mem _ List.mem_cons_self⟩

/-- Under sort keys that tell all rows apart, the select of a query returns the page of the rows in their order. -/
theorem returns_ofQuery_iff (hm : m.Regular) (hd : d.Mirrors m q.entityType table) (hq : q.isValid = true)
    (hoffset : q.offset < 2 ^ 63) (hlimit : ∀ n, q.limit = some n → n < 2 ^ 63) {keys : List SortKey}
    {rows : List ResultRow} (hpk : ∃ dir, ⟨.pk, dir⟩ ∈ keys) (hperm : rows.Perm (m.results q))
    (hsorted : rows.Pairwise (Precedes keys)) (out : List ResultRow) :
    ((RowSelect.ofQuery table false q).sortedBy keys).Returns d out ↔ out = q.page rows := by
  obtain ⟨dir, hpk⟩ := hpk
  have hcut : ((RowSelect.ofQuery table false q).sortedBy keys).cut rows = q.page rows :=
    RowQuery.cut_ofQuery table hoffset hlimit rows
  have hnodup : (rows.map (·.pk)).Nodup := (hperm.map _).nodup_iff.2 (hm.nodup_results q)
  rw [← hcut]
  refine RowSelect.returns_iff (s := (RowSelect.ofQuery table false q).sortedBy keys) hpk (fun n hn => ?_)
    (fun n hn => ?_) hnodup (hperm.trans (m.results_perm hm hd hq)) hsorted out
  · obtain ⟨n, hlimit', rfl⟩ := Option.map_eq_some_iff.1 (show q.limit.map RowSelect.word = some n from hn)
    exact RowSelect.word_nonneg (hlimit n hlimit')
  · change (if false || q.offset = 0 then none else some (RowSelect.word q.offset)) = some n at hn
    split at hn
    · cases hn
    · exact Option.some.inj hn ▸ RowSelect.word_nonneg hoffset

/-- **The select of a query returns one sequence only.** -/
theorem returns_select_iff (hm : m.Regular) (hd : d.Mirrors m q.entityType table) (hq : q.isValid = true)
    (hoffset : q.offset < 2 ^ 63) (hlimit : ∀ n, q.limit = some n → n < 2 ^ 63) (out : List ResultRow) :
    (RowSelect.ofQuery table false q).Returns d out ↔ out = q.page (m.selected q) :=
  returns_ofQuery_iff hm hd hq hoffset hlimit (RowSelect.pk_mem_orderOf q.order) (m.selected_perm q)
    (hm.pairwise_selected q) out

/-- Downwards by public id, the rows without one come first in memory. -/
theorem Memory.Regular.results_desc (hm : m.Regular) (hdesc : q.order = some ⟨.publicId, .desc⟩) :
    m.results q = (m.results q).filter (fun r => r.publicId.isNone) ++
      (m.results q).filter fun r => r.publicId.isSome := by
  have hsorted := hm.pairwise_results q
  rw [hdesc] at hsorted
  simp only [← Option.not_isNone]
  refine eq_filter_append (hsorted.imp fun {a b} hab hb => ?_)
  rw [Option.isNone_iff_eq_none] at hb ⊢
  have hnot : ¬IdLess a.publicId b.publicId := by
    refine hab.elim (fun h => ?_) And.left
    change IdLess b.publicId a.publicId at h
    rw [hb] at h
    exact h.elim
  rw [hb] at hnot
  cases hid : a.publicId with
  | none => rfl
  | some u =>
    rw [hid] at hnot
    exact absurd trivial hnot

/-- **Pages in memory and pages of selects.** Over the same rows and entries, a query that may be asked counts as many
rows in memory as its select does. Of the rows its select returns one sequence only, and memory answers with it, unless
the order goes downwards by public id; then it does exactly if no row without a public id is on the page but the one in
the middle of all of them, as memory puts these in the order opposite to their keys. In any case memory answers as the
select would whose ties are put along the direction of the order. -/
theorem fetch_eq_select_iff (hm : m.Regular) (hd : d.Mirrors m q.entityType table) (hq : q.isValid = true)
    (hoffset : q.offset < 2 ^ 63) (hlimit : ∀ n, q.limit = some n → n < 2 ^ 63) :
    m.countRows q = .ok ((RowSelect.ofQuery table true q).number d) ∧
    ∃ rows out, m.fetch q = .ok rows ∧
      (∀ out', (RowSelect.ofQuery table false q).Returns d out' ↔ out' = out) ∧
      (rows.map AnnotatedRow.result = out ↔
        (q.order = some ⟨.publicId, .desc⟩ → ∀ i, q.shows i = true →
          i < (m.select q).countP (·.publicId.isNone) → 2 * i + 1 = (m.select q).countP (·.publicId.isNone))) ∧
      ∀ out', ((RowSelect.ofQuery table false q).sortedBy (Memory.orderOf q.order)).Returns d out' ↔
        out' = rows.map AnnotatedRow.result := by
  refine ⟨countRows_eq_number hm hd hq, q.page (m.select q), q.page (m.selected q), m.fetch_eq hq, ?_, ?_, ?_⟩
  · exact returns_select_iff hm hd hq hoffset hlimit
  · rw [q.map_page, ← Memory.results, q.page_eq_iff, Memory.selected]
    split
    next hdesc =>
      have hcount : ((m.results q).filter fun r => r.publicId.isNone).length =
          (m.select q).countP (·.publicId.isNone) := by
        rw [Memory.results, List.filter_map, List.length_map, List.countP_eq_length_filter]
        rfl
      have hnodup : ((m.results q).filter fun r => r.publicId.isNone).Nodup := (hm.nodup_results q).of_map.filter _
      rw [← hcount]
      have hplace := fun i => getElem?_reverse_append_iff hnodup ((m.results q).filter fun r => r.publicId.isSome) i
      rw [← hm.results_desc hdesc] at hplace
      exact ⟨fun h _ i hi => (hplace i).1 (h i hi).symm, fun h i hi => ((hplace i).2 (h hdesc i hi)).symm⟩
    next hdesc => exact ⟨fun _ h => absurd h hdesc, fun _ _ _ => rfl⟩
  · rw [q.map_page]
    exact returns_ofQuery_iff hm hd hq hoffset hlimit (Memory.pk_mem_orderOf q.order) (.refl _)
      (hm.pairwise_results q)

/-- The two loaded widgets in a database; neither has an entry. -/
def Tables.loaded : Tables := ⟨fun table => if table = "\"shop_widget\"" then [(2, .null), (1, .null)] else [], []⟩

/-- The widgets by public id, upwards or downwards. -/
def RowQuery.widgetsById (direction : SortDirection) (limit : Option Nat) : RowQuery :=
  { RowQuery.all "shop.widget" with order := some ⟨.publicId, direction⟩, limit, annotated := true }

theorem Tables.mirrors_loaded : Tables.loaded.Mirrors World.loaded.memory "shop.widget" "\"shop_widget\"" where
  rows := .swap _ _ _
  entries := .refl _

theorem fetch_eq_select_iff_loaded :
    ∃ rows, World.loaded.memory.fetch (.widgetsById .asc (some 1)) = .ok rows ∧
      (RowSelect.ofQuery "\"shop_widget\"" false (.widgetsById .asc (some 1))).Returns .loaded
        (rows.map AnnotatedRow.result) := by
  have hlimit : ∀ n, (RowQuery.widgetsById .asc (some 1)).limit = some n → n < 2 ^ 63 := by
    rintro _ ⟨⟩
    decide
  obtain ⟨-, rows, out, hrows, hout, hsame, -⟩ :=
    fetch_eq_select_iff Memory.reachable_loaded.regular Tables.mirrors_loaded rfl (by decide) hlimit
  exact ⟨rows, hrows, (hout _).2 (hsame.2 nofun)⟩

/-- **Downwards by public id the two differ** on the loaded widgets: memory answers with the second one first, and the
select returns the first one first, whatever the server does. -/
theorem fetch_ne_select :
    (World.loaded.memory.fetch (.widgetsById .desc none)).map (fun rows => rows.map fun a => (a.row.pk, a.publicId)) =
        .ok [(2, none), (1, none)] ∧
      ∃ out, out.map (fun r => (r.pk, r.publicId)) = [(1, none), (2, none)] ∧
        ∀ out', (RowSelect.ofQuery "\"shop_widget\"" false (.widgetsById .desc none)).Returns .loaded out' ↔
          out' = out := by
  have hlimit : ∀ n, (RowQuery.widgetsById .desc none).limit = some n → n < 2 ^ 63 := by
    rintro _ ⟨⟩
  refine ⟨?_, _, ?_, returns_select_iff Memory.reachable_loaded.regular Tables.mirrors_loaded rfl (by decide) hlimit⟩
  · delta Memory.fetch Memory.select
    rw [Memory.sort_eq_sortByInsertion]
    decide +kernel
  · delta Memory.selected Memory.results Memory.select
    rw [Memory.sort_eq_sortByInsertion]
    decide +kernel

end RowIdentity
