import RowIdentity.Proofs.Lifecycle
import RowIdentity.Proofs.Listing.Order

/-!
# What calls tell and what they change

* `BackendCall.told`, `BackendCall.made`, `BackendCall.deletes` — the rows that a reply shows to be stored, those that a
  call makes entries for, and the one that it deletes;
* `Memory.told_stored` — **replies are true**;
* `Memory.Answered` — what a call can do to the stored state, said once;
* `Memory.Answered.isSome_row?`, `Memory.Answered.entry` — rows only go when they are deleted, and a call makes entries
  for no other rows than it says;
* `Memory.row?_eq_none_of_entry_delete` — a row that is deleted takes its entry along.
-/

namespace RowIdentity

/-! ## Calls -/

def Row.key (r : Row) : String × Int64 := (r.entityType, r.pk)

def MappingEntry.key (e : MappingEntry) : String × Int64 := (e.entityType, e.rowKey)

/-- The rows in the reply to a call. -/
def BackendCall.rows : (c : BackendCall) → c.Reply → List Row
  | .row .., .ok r => r.toList
  | .fetch _, .ok found => found.map (·.row)
  | .create .., .ok r => [r]
  | .createAt .., .ok r => [r]
  | _, _ => []

/-- The keys of rows that the reply to a call shows to be stored. -/
def BackendCall.told : (c : BackendCall) → c.Reply → List (String × Int64)
  | .existing ty _, .ok pks => pks.map (ty, ·)
  | c, r => (c.rows r).map Row.key

/-- The keys of rows that a call makes entries for, those of rows apart that it puts in itself. -/
def BackendCall.made : BackendCall → List (String × Int64)
  | .entryOrNew ty pk => [(ty, pk)]
  | .insertEntries es => es.map MappingEntry.key
  | _ => []

/-- The key of the row that a call deletes. -/
def BackendCall.deletes : BackendCall → List (String × Int64)
  | .delete ty pk => [(ty, pk)]
  | _ => []

/-- No call makes entries and deletes rows. -/
theorem BackendCall.not_mem_deletes_of_made {c : BackendCall} {k : String × Int64} (h : k ∈ c.made)
    (k' : String × Int64) : k' ∉ c.deletes := by
  cases c with
  | delete ty pk => cases h
  | _ => exact List.not_mem_nil

namespace Memory

variable {registry : Registry} {flag : Bool} {t : Moment} {m m' : Memory}

theorem row?_of_mem_select (hm : m.Regular) {q : RowQuery} {a : AnnotatedRow} (h : a ∈ m.select q) :
    m.row? a.row.entityType a.row.pk = some a.row := by
  obtain ⟨hstored, -⟩ := (mem_select_iff m q a).1 h
  have hrow := (hm.mem_stored_iff _ _).1 hstored
  rwa [(hm.filed _ _ _ hrow).1]

theorem mem_select_of_mem_fetch {q : RowQuery} {found : List AnnotatedRow} (h : m.fetch q = .ok found)
    {a : AnnotatedRow} (ha : a ∈ found) : a ∈ m.select q := by
  cases hq : q.isValid with
  | false =>
    rw [fetch, RowQuery.validate, hq] at h
    cases h
  | true =>
    rw [fetch_eq m hq] at h
    obtain rfl := Except.ok.inj h
    exact q.mem_of_mem_page ha

/-- **A reply is true**: the rows it tells of are stored after the call. -/
theorem told_stored (hm : m.Regular) (c : BackendCall) {k : String × Int64}
    (hk : k ∈ c.told (answer registry flag t c m).1) :
    ((answer registry flag t c m).2.row? k.1 k.2).isSome = true := by
  cases c with
  | row ty pk =>
    obtain ⟨r, hr, rfl⟩ := List.mem_map.1 hk
    have hrow : m.row? ty pk = some r := Option.mem_toList.1 hr
    obtain ⟨rfl, rfl⟩ := hm.filed ty pk r hrow
    exact Option.isSome_of_eq_some hrow
  | existing ty pks =>
    obtain ⟨pk, hpk, rfl⟩ := List.mem_map.1 hk
    exact (List.mem_filter.1 (List.mem_eraseDups.1 hpk)).2
  | fetch q =>
    have hrows : ∀ r ∈ BackendCall.rows (.fetch q) (m.fetch q), (m.row? r.entityType r.pk).isSome = true := by
      intro r hr
      cases hfetch : m.fetch q with
      | error f =>
        rw [hfetch] at hr
        cases hr
      | ok found =>
        rw [hfetch] at hr
        obtain ⟨a, ha, rfl⟩ := List.mem_map.1 hr
        exact Option.isSome_of_eq_some (row?_of_mem_select hm (mem_select_of_mem_fetch hfetch ha))
    obtain ⟨r, hr, rfl⟩ := List.mem_map.1 hk
    exact hrows r hr
  | create ty data =>
    change k ∈ BackendCall.told (.create ty data) (m.create registry t ty data).1 at hk
    change ((m.create registry t ty data).2.row? k.1 k.2).isSome = true
    rcases heq : m.create registry t ty data with ⟨_ | r, m'⟩
    · rw [heq] at hk
      cases hk
    · rw [heq] at hk
      obtain rfl := List.mem_singleton.1 hk
      exact Option.isSome_of_eq_some (create_ok heq).2.2.row?
  | createAt ty pk data =>
    change k ∈ BackendCall.told (.createAt ty pk data) (m.createAt registry t ty pk data).1 at hk
    change ((m.createAt registry t ty pk data).2.row? k.1 k.2).isSome = true
    rcases heq : m.createAt registry t ty pk data with ⟨_ | r, m'⟩
    · rw [heq] at hk
      cases hk
    · rw [heq] at hk
      obtain rfl := List.mem_singleton.1 hk
      exact Option.isSome_of_eq_some (createAt_ok heq).2.2.row?
  | entryOrNew ty pk =>
    change k ∈ BackendCall.told (.entryOrNew ty pk) (m.entryOrNew t ty pk).1 at hk
    cases hreply : (m.entryOrNew t ty pk).1 with
    | error f => rw [hreply] at hk; cases hk
    | ok e => rw [hreply] at hk; cases hk
  | countRows q =>
    change k ∈ BackendCall.told (.countRows q) (m.countRows q) at hk
    cases hreply : m.countRows q with
    | error f => rw [hreply] at hk; cases hk
    | ok n => rw [hreply] at hk; cases hk
  | countEntries ty? => cases ty? <;> cases hk
  | keys ty after limit => cases hk
  | delete ty pk => cases hk
  | entryById u => cases hk
  | entryOf ty pk => cases hk
  | insertEntries es => cases hk
  | mapped ty pks => cases hk
  | unmap ty pk => cases hk
  | flag => cases hk
  | stamp => cases hk

/-- What a call can do to the stored state. -/
inductive Answered (registry : Registry) (t : Moment) (m : Memory) : BackendCall → Memory → Prop
  | same (c : BackendCall) : Answered registry t m c m
  | inserted (c : BackendCall) {r : Row} {m' : Memory} (h : Inserted registry t m r m') : Answered registry t m c m'
  | deleted (ty : String) (pk : Int64) : Answered registry t m (.delete ty pk) ((m.dropRow ty pk).unmap ty pk)
  | unmapped (ty : String) (pk : Int64) : Answered registry t m (.unmap ty pk) (m.unmap ty pk)
  | entered (ty : String) (pk : Int64) {e : MappingEntry} {mappings : MappingTable} {rest : List Uuid}
      (h : m.mappings.getOrInsert ty pk t.now t.draws = some (e, mappings, rest)) :
      Answered registry t m (.entryOrNew ty pk) { m with mappings }
  | bulk (es : List MappingEntry) : Answered registry t m (.insertEntries es) (m.insertEntries es).2

theorem answered (registry : Registry) (flag : Bool) (t : Moment) (c : BackendCall) (m : Memory) :
    Answered registry t m c (answer registry flag t c m).2 := by
  cases c with
  | create ty data =>
    change Answered registry t m _ (m.create registry t ty data).2
    rcases heq : m.create registry t ty data with ⟨_ | r, m'⟩
    · exact create_error heq ▸ .same _
    · exact .inserted _ (create_ok heq).2.2
  | createAt ty pk data =>
    change Answered registry t m _ (m.createAt registry t ty pk data).2
    rcases heq : m.createAt registry t ty pk data with ⟨_ | r, m'⟩
    · exact createAt_error heq ▸ .same _
    · exact .inserted _ (createAt_ok heq).2.2
  | delete ty pk =>
    change Answered registry t m _ (m.delete ty pk).2
    rw [delete_eq]
    split
    · exact .deleted ty pk
    · exact .same _
  | entryOrNew ty pk =>
    change Answered registry t m _ (m.entryOrNew t ty pk).2
    rcases heq : m.entryOrNew t ty pk with ⟨_ | e, m'⟩
    · exact entryOrNew_error heq ▸ .same _
    · obtain ⟨mappings, rest, hget, rfl⟩ := entryOrNew_ok heq
      exact .entered ty pk hget
  | insertEntries es => exact .bulk es
  | unmap ty pk => exact .unmapped ty pk
  | countEntries ty? => cases ty? <;> exact .same _
  | row ty pk => exact .same _
  | keys ty after limit => exact .same _
  | existing ty pks => exact .same _
  | fetch q => exact .same _
  | countRows q => exact .same _
  | entryById u => exact .same _
  | entryOf ty pk => exact .same _
  | mapped ty pks => exact .same _
  | flag => exact .same _
  | stamp => exact .same _

/-- Rows only go when they are deleted. -/
theorem Answered.isSome_row? {c : BackendCall} (h : Answered registry t m c m') {ty : String} {pk : Int64}
    (hrow : (m.row? ty pk).isSome = true) (hc : (ty, pk) ∉ c.deletes) : (m'.row? ty pk).isSome = true := by
  cases h with
  | same => exact hrow
  | inserted _ h => exact h.isSome_row? ty pk hrow
  | deleted ty' pk' =>
    rw [row?_unmap, row?_dropRow, if_neg, hrow]
    rintro ⟨rfl, rfl⟩
    exact hc List.mem_cons_self
  | unmapped => exact hrow
  | entered => exact hrow
  | bulk es => exact hrow

/-- An entry that is found after entries were inserted was there, or is one of them. -/
theorem entry_of_insertAll {mappings : MappingTable} {es : List MappingEntry} {u : Uuid} {e : MappingEntry}
    (h : (es.foldl (fun t e => (t.insert e).2) mappings).entryById? u = some e) :
    mappings.entryById? u = some e ∨ e ∈ es := by
  induction es generalizing mappings with
  | nil => exact .inl h
  | cons e₀ es ih =>
    rcases ih h with h | h
    · change (mappings.insert e₀).2.entryById? u = some e at h
      rcases mappings.insert_cases e₀ with ⟨u', -, heq⟩ | ⟨-, -, heq⟩ | ⟨-, -, heq⟩
      · rw [heq] at h
        exact .inl h
      · rw [heq] at h
        exact .inl h
      · rw [heq, MappingTable.entryById?_add] at h
        split at h
        · exact .inr (Option.some.inj h ▸ List.mem_cons_self)
        · exact .inl h
    · exact .inr (List.mem_cons_of_mem _ h)

theorem entry_of_getOrInsert {mappings mappings' : MappingTable} (hm : mappings.Coherent) {ty : String} {pk : Int64}
    {now : Instant} {draws rest : List Uuid} {e₀ : MappingEntry}
    (hget : mappings.getOrInsert ty pk now draws = some (e₀, mappings', rest)) {u : Uuid} {e : MappingEntry}
    (h : mappings'.entryById? u = some e) : mappings.entryById? u = some e ∨ e.key = (ty, pk) := by
  rcases hm.getOrInsert_cases hget with ⟨-, rfl⟩ | ⟨-, -, heq, -, rfl⟩
  · exact .inl h
  · rw [MappingTable.entryById?_add] at h
    split at h
    · obtain rfl := Option.some.inj h
      rw [heq]
      exact .inr rfl
    · exact .inl h

theorem entry_of_inserted (hm : m.Regular) {r : Row} (h : Inserted registry t m r m') {u : Uuid}
    {e : MappingEntry} (he : m'.mappings.entryById? u = some e) :
    m.mappings.entryById? u = some e ∨ (m'.row? e.entityType e.rowKey).isSome = true := by
  have hmap := h.mappings
  split at hmap
  next =>
    obtain ⟨e₀, rest, hget⟩ := hmap
    refine (entry_of_getOrInsert hm.coherent hget he).imp_right fun hkey => ?_
    obtain ⟨hty, hpk⟩ := Prod.mk.inj hkey
    rw [hty, hpk, h.row?]
    rfl
  next => exact .inl (hmap ▸ he)

theorem entry_of_unmap {ty : String} {pk : Int64} {u : Uuid} {e : MappingEntry}
    (h : (m.unmap ty pk).mappings.entryById? u = some e) : m.mappings.entryById? u = some e := by
  change (m.mappings.remove ty pk).2.entryById? u = some e at h
  rw [MappingTable.entryById?_remove] at h
  split at h
  · cases h
  · exact h

/-- A row that is deleted takes its entry along. -/
theorem row?_eq_none_of_entry_delete (hm : m.Regular) {u : Uuid} {e : MappingEntry}
    (he : (m.delete e.entityType e.rowKey).2.mappings.entryById? u = some e) :
    m.row? e.entityType e.rowKey = none := by
  rw [delete_eq] at he
  split at he
  next =>
    change (m.mappings.remove e.entityType e.rowKey).2.entryById? u = some e at he
    rw [MappingTable.entryById?_remove] at he
    split at he
    next => cases he
    next hne => exact absurd (hm.coherent.idOf_entry u e he) hne
  next hrow => exact Option.not_isSome_iff_eq_none.1 hrow

/-- **Where the entries after a call come from**: they were there, the call has made them, or their rows are stored. -/
theorem Answered.entry (hm : m.Regular) {c : BackendCall} (h : Answered registry t m c m') {u : Uuid}
    {e : MappingEntry} (he : m'.mappings.entryById? u = some e) :
    m.mappings.entryById? u = some e ∨ e.key ∈ c.made ∨ (m'.row? e.entityType e.rowKey).isSome = true := by
  cases h with
  | same => exact .inl he
  | inserted _ hins => exact (entry_of_inserted hm hins he).imp_right .inr
  | deleted ty pk => exact .inl (entry_of_unmap (m := m.dropRow ty pk) he)
  | unmapped => exact .inl (entry_of_unmap he)
  | entered ty pk hget =>
    exact (entry_of_getOrInsert hm.coherent hget he).imp_right fun hkey => .inl (List.mem_singleton.2 hkey)
  | bulk es =>
    rw [insertEntries_snd] at he
    exact (entry_of_insertAll he).imp_right fun he => .inl (List.mem_map_of_mem he)

end Memory

end RowIdentity
