import RowIdentity.Proofs.Listing.Order
import RowIdentity.Sql.Select

/-!
# What selects mean

* `Tables` — what a SQL database holds; `Tables.idOf` is the sub-select for the public id of a row;
* `Precedes` — the order of rows under sort keys, NULL above all public ids, and these byte by byte;
* `RowSelect.found`, `RowSelect.cut`, `RowSelect.Returns` — the rows that pass the filters, the page that is cut out of
  them, and **what a server may return for a select**: the order leaves open what it does not tell apart;
* `Uuid.bytes_lt_iff` — bytes are ordered as the digits they are made of;
* `Precedes.pk_eq`, `RowSelect.returns_iff` — sort keys among which is the key of the table tell all rows apart, so that
  **such a select returns one sequence only**.
-/

namespace RowIdentity

/-! ## Bytes -/

namespace Uuid

/-- Each byte has two digits. -/
def bytesOf : List (Fin 16) → List Nat
  | high :: low :: digits => (16 * high.val + low.val) :: bytesOf digits
  | _ => []

def bytes (u : Uuid) : List Nat := bytesOf u.digits

theorem bytesOf_lt_iff (n : Nat) : ∀ ds es : List (Fin 16), ds.length = 2 * n → es.length = 2 * n →
    (bytesOf ds < bytesOf es ↔ ds.map Fin.val < es.map Fin.val) := by
  induction n with
  | zero =>
    intro ds es hds hes
    rw [List.length_eq_zero_iff.1 hds, List.length_eq_zero_iff.1 hes]
    rfl
  | succ n ih =>
    intro ds es hds hes
    obtain ⟨d, ds, rfl⟩ := List.exists_cons_of_length_eq_add_one hds
    obtain ⟨d', ds, rfl⟩ := List.exists_cons_of_length_eq_add_one (Nat.succ.inj hds)
    obtain ⟨e, es, rfl⟩ := List.exists_cons_of_length_eq_add_one hes
    obtain ⟨e', es, rfl⟩ := List.exists_cons_of_length_eq_add_one (Nat.succ.inj hes)
    rw [List.length_cons, List.length_cons] at hds hes
    simp only [bytesOf, List.map_cons, List.cons_lt_cons_iff, ih ds es (by omega) (by omega)]
    have hhigh : 16 * d.val + d'.val < 16 * e.val + e'.val ↔ d.val < e.val ∨ d.val = e.val ∧ d'.val < e'.val := by
      omega
    have hsame : 16 * d.val + d'.val = 16 * e.val + e'.val ↔ d.val = e.val ∧ d'.val = e'.val := by
      omega
    rw [hhigh, hsame, and_assoc, or_assoc, ← and_or_left]

/-- **UUIDs are ordered by their bytes as by their digits.** -/
theorem bytes_lt_iff (u v : Uuid) : u.bytes < v.bytes ↔ v.le u = false := by
  rw [bytes, bytes, bytesOf_lt_iff 16 _ _ u.length_digits v.length_digits, ← Bool.not_eq_true, Uuid.le_iff, not_not]

theorem le_antisymm {u v : Uuid} (huv : u.le v = true) (hvu : v.le u = true) : u = v := by
  rw [le_iff, List.not_lt] at huv hvu
  have hdigits := List.map_injective_iff.2 (fun _ _ => Fin.ext) (List.le_antisymm huv hvu)
  obtain ⟨ds, hds⟩ := u
  obtain rfl : ds = v.digits := hdigits
  rfl

end Uuid

/-! ## Databases -/

/-- What a SQL database holds, in whatever order it lies: for each table the keys of its rows with their other columns,
and the entries of the mapping table. -/
structure Tables where
  rows : String → List (Int64 × Json)
  entries : List MappingEntry

/-- The public id that the sub-select finds for a row; `none` is NULL. -/
def Tables.idOf (d : Tables) (ty : String) (pk : Int64) : Option Uuid :=
  (d.entries.filter fun e => e.entityType = ty ∧ e.rowKey = pk).head?.map (·.publicId)

/-- A row that is returned. -/
structure ResultRow where
  pk : Int64
  data : Json
  publicId : Option Uuid

/-! ## Orders -/

/-- Public ids are compared byte by byte; NULL is greater than all of them. -/
def IdLess : Option Uuid → Option Uuid → Prop
  | some u, some v => u.bytes < v.bytes
  | some _, none => True
  | none, _ => False

def SortField.Less : SortField → ResultRow → ResultRow → Prop
  | .pk, a, b => a.pk < b.pk
  | .publicId, a, b => IdLess a.publicId b.publicId

def SortKey.Less (k : SortKey) (a b : ResultRow) : Prop :=
  match k.direction with
  | .asc => k.field.Less a b
  | .desc => k.field.Less b a

/-- A row may come before another one: so says the first key that tells them apart, or none does. -/
def Precedes : List SortKey → ResultRow → ResultRow → Prop
  | [], _, _ => True
  | k :: ks, a, b => k.Less a b ∨ ¬k.Less b a ∧ Precedes ks a b

theorem publicIdLe_iff (a b : Option Uuid) : Memory.publicIdLe a b = true ↔ ¬IdLess b a := by
  match a, b with
  | some u, some v => simp [Memory.publicIdLe, IdLess, Uuid.bytes_lt_iff]
  | some _, none => simp [Memory.publicIdLe, IdLess]
  | none, some _ => simp [Memory.publicIdLe, IdLess]
  | none, none => simp [Memory.publicIdLe, IdLess]

/-- Public ids that are not told apart are one. -/
theorem IdLess.eq_of_not {a b : Option Uuid} (hab : ¬IdLess a b) (hba : ¬IdLess b a) : a = b := by
  rw [← publicIdLe_iff] at hab hba
  match a, b with
  | some u, some v => exact congrArg some (Uuid.le_antisymm hba hab)
  | some _, none => cases hab
  | none, some _ => cases hba
  | none, none => rfl

theorem SortField.Less.asymm {f : SortField} {a b : ResultRow} (h : f.Less a b) : ¬f.Less b a := by
  cases f with
  | pk => exact Int64.lt_asymm h
  | publicId =>
    have hle := Memory.publicIdLe_total a.publicId b.publicId
    rw [Bool.or_eq_true, publicIdLe_iff, publicIdLe_iff] at hle
    exact hle.elim id fun hnot => absurd h hnot

theorem SortKey.Less.asymm {k : SortKey} {a b : ResultRow} (h : k.Less a b) : ¬k.Less b a := by
  obtain ⟨f, d⟩ := k
  cases d with
  | asc => exact SortField.Less.asymm h
  | desc => exact SortField.Less.asymm h

/-- The same key the other way round. -/
def SortKey.flip (k : SortKey) : SortKey :=
  { k with direction := match k.direction with | .asc => .desc | .desc => .asc }

theorem SortKey.less_flip (k : SortKey) (a b : ResultRow) : k.flip.Less a b ↔ k.Less b a := by
  obtain ⟨f, d⟩ := k
  cases d <;> rfl

theorem precedes_flip (ks : List SortKey) (a b : ResultRow) : Precedes (ks.map SortKey.flip) a b ↔ Precedes ks b a := by
  induction ks with
  | nil => exact Iff.rfl
  | cons k ks ih => simp only [List.map_cons, Precedes, SortKey.less_flip, ih]

/-- No key tells rows apart that may come before each other. -/
theorem Precedes.not_less {ks : List SortKey} {a b : ResultRow} (hab : Precedes ks a b) (hba : Precedes ks b a) :
    ∀ k ∈ ks, ¬k.Less a b ∧ ¬k.Less b a := by
  induction ks with
  | nil => exact nofun
  | cons k ks ih =>
    have hnot : ¬k.Less b a := hab.elim SortKey.Less.asymm And.left
    have hnot' : ¬k.Less a b := hba.elim SortKey.Less.asymm And.left
    have htail := ih ((hab.resolve_left hnot').2) ((hba.resolve_left hnot).2)
    exact List.forall_mem_cons.2 ⟨⟨hnot', hnot⟩, htail⟩

/-- The key of the table tells all rows apart. -/
theorem Precedes.pk_eq {ks : List SortKey} {a b : ResultRow} {d : SortDirection} (hpk : ⟨.pk, d⟩ ∈ ks)
    (hab : Precedes ks a b) (hba : Precedes ks b a) : a.pk = b.pk := by
  obtain ⟨hnot, hnot'⟩ := hab.not_less hba _ hpk
  cases d with
  | asc => exact Int64.le_antisymm (Int64.not_lt.1 hnot') (Int64.not_lt.1 hnot)
  | desc => exact Int64.le_antisymm (Int64.not_lt.1 hnot) (Int64.not_lt.1 hnot')

/-! ## Selects -/

namespace RowSelect

/-- A select under other sort keys. -/
def sortedBy (s : RowSelect) (keys : List SortKey) : RowSelect := { s with order := keys }

/-- Whether a row passes the filters; nothing equals NULL. -/
def holds (s : RowSelect) (d : Tables) (t : Int64 × Json) : Bool :=
  s.pks.all (fun pks => pks.contains t.1) && s.publicId.all fun u => d.idOf s.entityType t.1 == some u

/-- The columns of a row that are selected. -/
def output (s : RowSelect) (d : Tables) (t : Int64 × Json) : ResultRow :=
  ⟨t.1, t.2, if s.annotated then d.idOf s.entityType t.1 else none⟩

/-- The rows that pass the filters, in no order. -/
def found (s : RowSelect) (d : Tables) : List ResultRow := ((d.rows s.table).filter (s.holds d)).map (s.output d)

/-- The number of rows that pass the filters. -/
def number (s : RowSelect) (d : Tables) : Nat := ((d.rows s.table).filter (s.holds d)).length

/-- The page: what is to be skipped is skipped before the rest is cut off. -/
def cut {α : Type} (s : RowSelect) (l : List α) : List α :=
  let rest := l.drop (s.offset.getD 0).toNatClampNeg
  match s.limit with
  | some n => rest.take n.toNatClampNeg
  | none => rest

/-- What a server may return: a page of the rows that pass the filters, in an order that agrees with the sort keys. A
negative page is refused. -/
structure Returns (s : RowSelect) (d : Tables) (out : List ResultRow) : Prop where
  limit_nonneg : ∀ n, s.limit = some n → 0 ≤ n
  offset_nonneg : ∀ n, s.offset = some n → 0 ≤ n
  page : ∃ rows, rows.Perm (s.found d) ∧ rows.Pairwise (Precedes s.order) ∧ out = s.cut rows

/-- **A select returns one sequence only** if the key of the table is among its sort keys. -/
theorem returns_iff {s : RowSelect} {d : Tables} {rows : List ResultRow} {dir : SortDirection}
    (hpk : ⟨.pk, dir⟩ ∈ s.order) (hlimit : ∀ n, s.limit = some n → 0 ≤ n) (hoffset : ∀ n, s.offset = some n → 0 ≤ n)
    (hnodup : (rows.map (·.pk)).Nodup) (hperm : rows.Perm (s.found d)) (hsorted : rows.Pairwise (Precedes s.order))
    (out : List ResultRow) : s.Returns d out ↔ out = s.cut rows := by
  constructor
  · rintro ⟨-, -, rows', hperm', hsorted', rfl⟩
    have hsame : rows'.Perm rows := hperm'.trans hperm.symm
    rw [hsame.eq_of_pairwise (fun a b ha hb hab hba => ?_) hsorted' hsorted]
    exact List.inj_on_of_nodup_map hnodup (hsame.mem_iff.1 ha) hb (hab.pk_eq hpk hba)
  · rintro rfl
    exact ⟨hlimit, hoffset, rows, hperm, hsorted, rfl⟩

end RowSelect

end RowIdentity
