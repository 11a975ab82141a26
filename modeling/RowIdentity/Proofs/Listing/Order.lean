import Mathlib.Data.List.Sort
import RowIdentity.Http.Handler
import RowIdentity.Proofs.Listing.Query

/-!
# The order of a list

* `pageQuery`, `pageQuery_isValid_iff` — the query of a list, and when it may be asked; `pageQueryFor` asks for one
  public id alone;
* `sortRows`, `Memory.listed_eq` — the rows of a list, in the order that the public ids give them;
* `Memory.listed_perm` — **a list holds the stored rows**, whatever its order;
* `sortRows_publicId_asc` — upwards by public id, rows without one come last;
* `Memory.sort_eq_sortByInsertion` — rows are sorted as by insertion, which can be evaluated on given rows.
-/

namespace RowIdentity

variable {order : Option SortKey} {scheme : IdScheme}

/-! ## The query of a list -/

/-- The query of a list under a scheme, before a page is cut out. -/
def pageQuery (model : Model) (scheme : IdScheme) (order : Option SortKey) : RowQuery :=
  { scheme.annotate (.all model.entityType) with order }

/-- The query of a list that is cut down to one public id, if any. -/
def pageQueryFor (model : Model) (scheme : IdScheme) (order : Option SortKey) (publicId : Option Uuid) : RowQuery :=
  { pageQuery model scheme order with publicId }

theorem pageQueryFor_none (model : Model) (scheme : IdScheme) (order : Option SortKey) :
    pageQueryFor model scheme order none = pageQuery model scheme order := by
  cases scheme <;> rfl

/-- Whether rows are sorted by their public ids. -/
def readsIds (order : Option SortKey) : Bool := order.any (·.field == .publicId)

/-- Only where public ids are shown can a list be sorted by them. -/
theorem pageQuery_isValid_iff (model : Model) (scheme : IdScheme) (order : Option SortKey) :
    (pageQuery model scheme order).isValid = true ↔ (readsIds order = true → scheme = .publicId) := by
  have hreads : (pageQuery model scheme order).referencesPublicId = readsIds order := by
    cases scheme <;> rfl
  rw [RowQuery.isValid, hreads]
  cases scheme <;> cases readsIds order <;> simp [pageQuery, IdScheme.annotate, RowQuery.annotate, RowQuery.all]

/-- The rows of a page are fetched from some place on, or they are none. -/
theorem pageRows_cases (q : RowQuery) (page limit total : Nat) :
    (∃ offset, pageRows q page limit total = liftM (Store.fetch { q with offset, limit := some limit })) ∨
      pageRows q page limit total = pure [] := by
  unfold pageRows
  split
  · split
    · exact .inl ⟨_, rfl⟩
    · exact .inr rfl
  · exact .inr rfl

/-! ## The order -/

/-- Rows in an order, where `idOf` gives them their public ids. -/
def sortRows (idOf : Row → Option Uuid) (order : Option SortKey) (rows : List Row) : List Row :=
  match order with
  | none => rows
  | some ⟨field, direction⟩ =>
    let sorted := match field with
      | .pk => rows.mergeSort fun a b => a.pk ≤ b.pk
      | .publicId => rows.mergeSort fun a b => Memory.publicIdLe (idOf a) (idOf b)
    match direction with
    | .asc => sorted
    | .desc => sorted.reverse

/-- An order that does not read public ids does not depend on them. -/
theorem sortRows_congr (h : readsIds order = false) (idOf idOf' : Row → Option Uuid) (rows : List Row) :
    sortRows idOf order rows = sortRows idOf' order rows := by
  match order with
  | none => rfl
  | some ⟨.pk, _⟩ => rfl
  | some ⟨.publicId, _⟩ => cases h

/-- Annotated rows are sorted as the rows by themselves. -/
theorem map_sort (idOf : Row → Option Uuid) (order : Option SortKey) (rows : List Row) :
    (Memory.sort order (rows.map fun r => ⟨r, idOf r⟩)).map (·.row) = sortRows idOf order rows := by
  have hback : ∀ rows : List Row, (rows.map fun r => (⟨r, idOf r⟩ : AnnotatedRow)).map (·.row) = rows := by
    intro rows
    rw [List.map_map]
    exact List.map_id _
  have hpk : (rows.map fun r => (⟨r, idOf r⟩ : AnnotatedRow)).mergeSort (fun a b => a.row.pk ≤ b.row.pk) =
      (rows.mergeSort fun a b => a.pk ≤ b.pk).map fun r => ⟨r, idOf r⟩ := by
    refine (List.map_mergeSort ?_).symm
    exact fun _ _ _ _ => rfl
  have hid : (rows.map fun r => (⟨r, idOf r⟩ : AnnotatedRow)).mergeSort
        (fun a b => Memory.publicIdLe a.publicId b.publicId) =
      (rows.mergeSort fun a b => Memory.publicIdLe (idOf a) (idOf b)).map fun r => ⟨r, idOf r⟩ := by
    refine (List.map_mergeSort ?_).symm
    exact fun _ _ _ _ => rfl
  match order with
  | none => exact hback rows
  | some ⟨.pk, .asc⟩ => simp only [Memory.sort, sortRows, hpk, hback]
  | some ⟨.pk, .desc⟩ => simp only [Memory.sort, sortRows, hpk, List.map_reverse, hback]
  | some ⟨.publicId, .asc⟩ => simp only [Memory.sort, sortRows, hid, hback]
  | some ⟨.publicId, .desc⟩ => simp only [Memory.sort, sortRows, hid, List.map_reverse, hback]

/-! ## The rows of a list -/

namespace Memory

/-- The rows of a list in its order. -/
def listed (m : Memory) (model : Model) (scheme : IdScheme) (order : Option SortKey) : List Row :=
  (m.select (pageQuery model scheme order)).map (·.row)

/-- The public id that a list finds for a row. -/
def shownId (m : Memory) (model : Model) (scheme : IdScheme) (r : Row) : Option Uuid :=
  if scheme = .publicId then m.mappings.idOf? model.entityType r.pk else none

theorem select_pageQuery (m : Memory) (model : Model) (scheme : IdScheme) (order : Option SortKey) :
    m.select (pageQuery model scheme order) =
      sort order ((m.stored model.entityType).map fun r => ⟨r, m.shownId model scheme r⟩) := by
  rw [select_eq_sift]
  cases scheme <;> simp [sift, pageQuery, IdScheme.annotate, RowQuery.annotate, RowQuery.all, shownId]

theorem listed_eq (m : Memory) (model : Model) (scheme : IdScheme) (order : Option SortKey) :
    m.listed model scheme order = sortRows (m.shownId model scheme) order (m.stored model.entityType) := by
  rw [listed, select_pageQuery, map_sort]

/-- **A list holds the stored rows.** -/
theorem listed_perm (m : Memory) (model : Model) (scheme : IdScheme) (order : Option SortKey) :
    (m.listed model scheme order).Perm (m.stored model.entityType) := by
  have hperm := (sort_perm order ((m.stored model.entityType).map fun r => ⟨r, m.shownId model scheme r⟩)).map (·.row)
  rw [List.map_map] at hperm
  rw [listed, select_pageQuery]
  exact hperm.trans (.of_eq (List.map_id _))

theorem length_listed (m : Memory) (model : Model) (scheme : IdScheme) (order : Option SortKey) :
    (m.listed model scheme order).length = (m.stored model.entityType).length :=
  (m.listed_perm model scheme order).length_eq

end Memory

/-! ## Upwards by public id -/

theorem Uuid.le_iff (u v : Uuid) : u.le v = true ↔ ¬v.digits.map Fin.val < u.digits.map Fin.val := by
  rw [Uuid.le, Bool.not_eq_true', decide_eq_false_iff_not]

theorem Uuid.le_trans {u v w : Uuid} (huv : u.le v = true) (hvw : v.le w = true) : u.le w = true := by
  rw [Uuid.le_iff, List.not_lt] at *
  exact List.le_trans huv hvw

theorem Uuid.le_total (u v : Uuid) : u.le v = true ∨ v.le u = true := by
  rw [Uuid.le_iff, Uuid.le_iff, List.not_lt, List.not_lt]
  exact List.le_total _ _

theorem Memory.publicIdLe_trans (a b c : Option Uuid) (hab : publicIdLe a b = true) (hbc : publicIdLe b c = true) :
    publicIdLe a c = true := by
  match a, b, c with
  | some u, some v, some w => exact Uuid.le_trans hab hbc
  | some _, _, none => rfl
  | none, _, none => rfl
  | none, some _, _ => cases hab
  | _, none, some _ => cases hbc

theorem Memory.publicIdLe_total (a b : Option Uuid) : (publicIdLe a b || publicIdLe b a) = true := by
  match a, b with
  | some u, some v =>
    rw [Bool.or_eq_true]
    exact Uuid.le_total u v
  | none, none => rfl
  | none, some _ => rfl
  | some _, none => rfl

/-! ## Sorting by insertion -/

/-- A stable sort is the sort by insertion, also where different elements are equal in the order. -/
theorem mergeSort_eq_insertionSort {α : Type} {le : α → α → Bool}
    (htrans : ∀ a b c, le a b = true → le b c = true → le a c = true) (htotal : ∀ a b, (le a b || le b a) = true)
    (l : List α) : l.mergeSort le = l.insertionSort fun a b => le a b = true := by
  induction l with
  | nil => exact List.mergeSort_nil
  | cons a l ih =>
    obtain ⟨before, behind, hcons, hrest, hbefore⟩ := List.mergeSort_cons htrans htotal a l
    have hsorted := List.pairwise_mergeSort htrans htotal (a :: l)
    rw [hcons, List.pairwise_append] at hsorted
    -- the new element passes by those that are less, and precedes the rest
    have hpass : ∀ b ∈ before, decide ¬le a b = true := fun b hb => by simpa using hbefore b hb
    rw [List.insertionSort_cons, ← ih, hrest, hcons, List.orderedInsert_eq_take_drop,
      List.takeWhile_append_of_pos hpass, List.dropWhile_append_of_pos hpass]
    cases behind with
    | nil => simp
    | cons b behind =>
      have hab : le a b = true := (List.pairwise_cons.1 hsorted.2.1).1 b List.mem_cons_self
      simp [hab]

namespace Memory

theorem pkLe_trans (a b c : AnnotatedRow) (hab : decide (a.row.pk ≤ b.row.pk) = true)
    (hbc : decide (b.row.pk ≤ c.row.pk) = true) : decide (a.row.pk ≤ c.row.pk) = true := by
  rw [decide_eq_true_eq] at *
  exact Int64.le_trans hab hbc

theorem pkLe_total (a b : AnnotatedRow) :
    (decide (a.row.pk ≤ b.row.pk) || decide (b.row.pk ≤ a.row.pk)) = true := by
  rw [Bool.or_eq_true, decide_eq_true_eq, decide_eq_true_eq]
  exact Int64.le_total _ _

/-- Sorts rows by insertion. -/
def sortByInsertion (order : Option SortKey) (rows : List AnnotatedRow) : List AnnotatedRow :=
  match order with
  | none => rows
  | some ⟨field, direction⟩ =>
    let sorted := match field with
      | .pk => rows.insertionSort fun a b => decide (a.row.pk ≤ b.row.pk) = true
      | .publicId => rows.insertionSort fun a b => publicIdLe a.publicId b.publicId = true
    match direction with
    | .asc => sorted
    | .desc => sorted.reverse

/-- Given rows can be sorted by evaluation this way, where `sort` itself does not reduce. -/
theorem sort_eq_sortByInsertion : sort = sortByInsertion := by
  funext order rows
  have hpk := mergeSort_eq_insertionSort pkLe_trans pkLe_total rows
  have hid : rows.mergeSort (fun a b => publicIdLe a.publicId b.publicId) = _ :=
    mergeSort_eq_insertionSort (fun a b c => publicIdLe_trans a.publicId b.publicId c.publicId)
      (fun a b => publicIdLe_total a.publicId b.publicId) rows
  match order with
  | none => rfl
  | some ⟨.pk, .asc⟩ => exact hpk
  | some ⟨.pk, .desc⟩ => exact congrArg List.reverse hpk
  | some ⟨.publicId, .asc⟩ => exact hid
  | some ⟨.publicId, .desc⟩ => exact congrArg List.reverse hid

end Memory

/-! ## Public ids in front -/

/-- Upwards by public id, each row comes before those of a greater id and before those without one. -/
theorem pairwise_sortRows (idOf : Row → Option Uuid) (rows : List Row) :
    (sortRows idOf (some ⟨.publicId, .asc⟩) rows).Pairwise
      fun a b => Memory.publicIdLe (idOf a) (idOf b) = true := by
  refine List.pairwise_mergeSort ?_ ?_ rows
  · exact fun a b c => Memory.publicIdLe_trans (idOf a) (idOf b) (idOf c)
  · exact fun a b => Memory.publicIdLe_total (idOf a) (idOf b)

/-- In a list where nothing without the property comes before something with it, what has the property is in front. -/
theorem eq_filter_append {α : Type} {p : α → Bool} {l : List α} (h : l.Pairwise fun a b => p b = true → p a = true) :
    l = l.filter p ++ l.filter fun a => !p a := by
  induction l with
  | nil => rfl
  | cons x l ih =>
    obtain ⟨hx, hl⟩ := List.pairwise_cons.1 h
    cases hp : p x with
    | true =>
      simp only [List.filter_cons, hp, if_true, Bool.not_true, Bool.false_eq_true, if_false, List.cons_append]
      rw [← ih hl]
    | false =>
      have hnone : ∀ y ∈ l, p y = false := fun y hy => Bool.eq_false_iff.2 fun hy' => by
        rw [hx y hy hy'] at hp
        cases hp
      have hempty : l.filter p = [] := List.filter_eq_nil_iff.2 fun y hy => by simp [hnone y hy]
      have hall : (l.filter fun a => !p a) = l := List.filter_eq_self.2 fun y hy => by simp [hnone y hy]
      simp only [List.filter_cons, hp, Bool.false_eq_true, if_false, Bool.not_false, if_true, hempty, hall,
        List.nil_append]

/-- **Upwards by public id, the rows that have one come first.** -/
theorem sortRows_publicId_asc (idOf : Row → Option Uuid) (rows : List Row) :
    sortRows idOf (some ⟨.publicId, .asc⟩) rows =
      (sortRows idOf (some ⟨.publicId, .asc⟩) rows).filter (fun r => (idOf r).isSome) ++
        (sortRows idOf (some ⟨.publicId, .asc⟩) rows).filter fun r => !(idOf r).isSome := by
  refine eq_filter_append ((pairwise_sortRows idOf rows).imp ?_)
  intro a b hle hb
  obtain ⟨u, hu⟩ := Option.isSome_iff_exists.1 hb
  rw [hu] at hle
  cases ha : idOf a with
  | some _ => rfl
  | none =>
    rw [ha] at hle
    cases hle

end RowIdentity
