import RowIdentity.Proofs.Separation.State
import RowIdentity.Proofs.Stability

/-!
# Entity types are separate

An in-memory database is used by operations on entity types. An observer of one type sees the replies to the operations
on it, times apart.

* `StoreOp.entityType?`, `StoreOp.draws` — the type that an operation is about, and whether it may draw an id;
* `StoreOp.writes`, `StoreOp.enters`, `Memory.perform_snd` — **what an operation does to the state, said once**;
* `Memory.alike_outcome` — an operation on another type leaves everything alike;
* `Memory.Alike.outcome`, `Memory.Alike.reply` — the same operation on states that are alike leaves them alike, and
  **has the same reply**;
* `entityTypes_separate` — **operations on other types can be left out** of a course.
-/

namespace RowIdentity

/-! ## Operations on an entity type -/

/-- The entity type that a call is about, if it is about one. -/
def BackendCall.entityType? : BackendCall → Option String
  | row ty _ | keys ty .. | existing ty _ | create ty _ | createAt ty .. | delete ty _ => some ty
  | entryOf ty _ | entryOrNew ty _ | mapped ty _ | unmap ty _ => some ty
  | fetch q | countRows q => some q.entityType
  | countEntries ty? => ty?
  | entryById _ | insertEntries _ | flag | stamp => none

namespace StoreOp

def entityType? : StoreOp → Option String
  | call c => c.entityType?
  | load ty _ => some ty

/-- The reply to an operation; a load tells how many rows there were. -/
def Reply : StoreOp → Type
  | call c => c.Reply
  | load .. => Nat

/-- A reply without the times in it. -/
def timeless : (op : StoreOp) → op.Reply → op.Reply
  | call (.row ..), r => Except.map (Option.map Row.timeless) r
  | call (.fetch _), r => Except.map (List.map AnnotatedRow.timeless) r
  | call (.create ..), r => Except.map Row.timeless r
  | call (.createAt ..), r => Except.map Row.timeless r
  | call (.entryById _), r => Except.map (Option.map MappingEntry.timeless) r
  | call (.entryOf ..), r => Except.map (Option.map MappingEntry.timeless) r
  | call (.entryOrNew ..), r => Except.map MappingEntry.timeless r
  | call .stamp, (s : Stamp) => ({ s with time := ⟨0, 0⟩ } : Stamp)
  | call (.keys ..), r | call (.existing ..), r | call (.countRows _), r | call (.delete ..), r
  | call (.insertEntries _), r | call (.mapped ..), r | call (.unmap ..), r | call (.countEntries _), r
  | call .flag, r | load .., r => r

/-- Whether an operation may draw an id for an entry. -/
def draws (registry : Registry) : StoreOp → Bool
  | call (.create ty _) | call (.createAt ty ..) => Memory.tracks registry ty
  | call (.entryOrNew ..) => true
  | _ => false

end StoreOp

/-- The reply to an operation, and the state after it. -/
def Memory.perform (registry : Registry) (flag : Bool) (t : Moment) : (op : StoreOp) → Memory → op.Reply × Memory
  | .call c, m => answer registry flag t c m
  | .load ty rows, m => m.load t.now ty rows

/-! ## What an operation does -/

namespace StoreOp

variable (registry : Registry) (m : Memory)

/-- The writes of an operation. -/
def writes : StoreOp → List Write
  | call (.create ty data) => if (registry.get? ty).isSome then [.next ty, .row ty (m.nextKey ty) data] else []
  | call (.createAt ty pk data) =>
    if (registry.get? ty).isSome && (m.row? ty pk).isNone then [.row ty pk data] else []
  | call (.delete ty pk) => if (m.row? ty pk).isSome then [.drop ty pk, .unmap ty pk] else []
  | call (.unmap ty pk) => [.unmap ty pk]
  | load ty rows => rows.map (fun p => .row ty p.1 p.2) ++ [.raise ty]
  | _ => []

/-- The row that an operation makes an entry for when it has none. -/
def enters : StoreOp → Option (String × Int64)
  | call (.create ty _) => if Memory.tracks registry ty then some (ty, m.nextKey ty) else none
  | call (.createAt ty pk _) => if Memory.tracks registry ty && (m.row? ty pk).isNone then some (ty, pk) else none
  | call (.entryOrNew ty pk) => some (ty, pk)
  | _ => none

/-- The state after the writes of an operation. -/
def written (t : Moment) (op : StoreOp) : Memory := (op.writes registry m).foldl (Write.apply t.now) m

/-- The state after an operation that draws an unused id. -/
def outcome (t : Moment) (op : StoreOp) : Memory :=
  match op.enters registry m with
  | some (ty, pk) => (op.written registry m t).enter t ty pk
  | none => op.written registry m t

end StoreOp

namespace Memory

variable {registry : Registry} {flag flag' : Bool} {t t' : Moment} {m m' : Memory} {ty : String} {op : StoreOp}

theorem entryOrNew_of_free (hm : m.Regular) (hfree : m.mappings.entryById? t.draw = none) (ty : String) (pk : Int64) :
    m.entryOrNew t ty pk = (.ok (m.mappings.entered ty pk t.now t.draw), m.enter t ty pk) := by
  rw [Memory.entryOrNew, Moment.draws, hm.coherent.getOrInsert_of_free hfree]
  rfl

/-- A row goes in when the id that is drawn for it is unused. -/
theorem insertRow_of_free (hm : m.Regular) (r : Row)
    (hfree : tracks registry r.entityType = true → m.mappings.entryById? t.draw = none) :
    insertRow registry t m r =
      (.ok r, if tracks registry r.entityType then (m.putRow r).enter t r.entityType r.pk else m.putRow r) := by
  unfold insertRow
  by_cases htracks : tracks registry r.entityType = true
  · have hfiled : (m.putRow r).mappings.entryById? t.draw = none := hfree htracks
    simp only [htracks, if_true, entryOrNew_of_free (hm.putRow r) hfiled]
  · simp only [htracks, if_false, Bool.false_eq_true]

theorem tracks_eq_false_of_unregistered (h : registry.get? ty = none) : tracks registry ty = false := by
  rw [tracks, h]
  rfl

theorem create_of_free (hm : m.Regular) (ty : String) (data : Json)
    (hfree : tracks registry ty = true → m.mappings.entryById? t.draw = none) :
    create registry t m ty data =
      (if (registry.get? ty).isSome then .ok ⟨ty, m.nextKey ty, data, t.now⟩ else .error (.known (.unknownType ty)),
        (StoreOp.call (.create ty data)).outcome registry m t) := by
  unfold create ensureRegistered StoreOp.outcome StoreOp.written StoreOp.enters StoreOp.writes
  cases hmodel : registry.get? ty with
  | none => simp [tracks_eq_false_of_unregistered hmodel, hmodel]
  | some model =>
    have hseq : (m.setSequence ty (m.nextKey ty)).Regular := hm.of_parts rfl hm.coherent
    have hins := insertRow_of_free hseq ⟨ty, m.nextKey ty, data, t.now⟩ hfree
    simp only [hins]
    by_cases htracks : tracks registry ty = true
    · simp [htracks, hmodel, Write.apply]
    · simp [htracks, hmodel, Write.apply]

theorem createAt_of_free (hm : m.Regular) (ty : String) (pk : Int64) (data : Json)
    (hfree : tracks registry ty = true → m.mappings.entryById? t.draw = none) :
    createAt registry t m ty pk data =
      (if (registry.get? ty).isSome then
          if (m.row? ty pk).isSome then
            .error (.plain (ty ++ " with pk " ++ Decimal.text pk.toInt ++ " already exists"))
          else .ok ⟨ty, pk, data, t.now⟩
        else .error (.known (.unknownType ty)),
        (StoreOp.call (.createAt ty pk data)).outcome registry m t) := by
  unfold createAt ensureRegistered StoreOp.outcome StoreOp.written StoreOp.enters StoreOp.writes
  cases hmodel : registry.get? ty with
  | none => simp [tracks_eq_false_of_unregistered hmodel, hmodel]
  | some model =>
    cases hrow : m.row? ty pk with
    | some r => simp [hmodel, hrow]
    | none =>
      have hins := insertRow_of_free hm ⟨ty, pk, data, t.now⟩ hfree
      by_cases htracks : tracks registry ty = true
      · simp [hins, htracks, hmodel, hrow, Write.apply]
      · simp [hins, htracks, hmodel, hrow, Write.apply]

/-- **The state after an operation** is that after its writes, with one more entry where one is to be made. -/
theorem perform_snd (hm : m.Regular) (hop : op.entityType? = some ty)
    (hfree : op.draws registry = true → m.mappings.entryById? t.draw = none) :
    (m.perform registry flag t op).2 = op.outcome registry m t := by
  cases op with
  | load ty' rows =>
    have hwrites : (StoreOp.load ty' rows).writes registry m =
        (rows.map fun p => Write.row ty' p.1 p.2) ++ [Write.raise ty'] := rfl
    rw [StoreOp.outcome, StoreOp.written, hwrites, List.foldl_append, List.foldl_map]
    rfl
  | call c =>
    cases c with
    | create ty' data => exact congrArg Prod.snd (create_of_free hm ty' data hfree)
    | createAt ty' pk data => exact congrArg Prod.snd (createAt_of_free hm ty' pk data hfree)
    | delete ty' pk =>
      have hwrites : (StoreOp.call (.delete ty' pk)).writes registry m =
        if (m.row? ty' pk).isSome then [Write.drop ty' pk, .unmap ty' pk] else [] := rfl
      change (m.delete ty' pk).2 = StoreOp.written registry m t _
      rw [delete_eq, StoreOp.written, hwrites]
      split
      · rfl
      · rfl
    | entryOrNew ty' pk => exact congrArg Prod.snd (entryOrNew_of_free hm (hfree rfl) ty' pk)
    | countEntries ty? =>
      obtain rfl : ty? = some ty := hop
      rfl
    | entryById u => cases hop
    | insertEntries es => cases hop
    | flag => cases hop
    | stamp => cases hop
    | _ => rfl

/-- An operation writes to its own entity type. -/
theorem entityType_of_mem_writes (hop : op.entityType? = some ty) : ∀ w ∈ op.writes registry m, w.entityType = ty := by
  have hif : ∀ {c : Prop} [Decidable c] {ws : List Write}, (∀ w ∈ ws, w.entityType = ty) →
      ∀ w ∈ if c then ws else [], w.entityType = ty := fun hws w hw => by
    split at hw
    · exact hws w hw
    · cases hw
  cases op with
  | load ty' rows =>
    obtain rfl : ty' = ty := Option.some.inj hop
    exact List.forall_mem_append.2 ⟨List.forall_mem_map.2 fun _ _ => rfl, List.forall_mem_singleton.2 rfl⟩
  | call c =>
    cases c with
    | create ty' data =>
      obtain rfl : ty' = ty := Option.some.inj hop
      exact hif (List.forall_mem_cons.2 ⟨rfl, List.forall_mem_singleton.2 rfl⟩)
    | createAt ty' pk data =>
      obtain rfl : ty' = ty := Option.some.inj hop
      exact hif (List.forall_mem_singleton.2 rfl)
    | delete ty' pk =>
      obtain rfl : ty' = ty := Option.some.inj hop
      exact hif (List.forall_mem_cons.2 ⟨rfl, List.forall_mem_singleton.2 rfl⟩)
    | unmap ty' pk => exact List.forall_mem_singleton.2 (Option.some.inj hop)
    | _ => exact fun _ hw => nomatch hw

/-- An operation makes an entry for a row of its own entity type, with the id that it draws. -/
theorem of_enters {k : String × Int64} (hop : op.entityType? = some ty) (h : op.enters registry m = some k) :
    k.1 = ty ∧ op.draws registry = true := by
  cases op with
  | load ty' rows => cases h
  | call c =>
    cases c with
    | create ty' data =>
      obtain ⟨htracks, hk⟩ := Option.ite_none_right_eq_some.1 h
      obtain rfl := Option.some.inj hk
      exact ⟨Option.some.inj hop, htracks⟩
    | createAt ty' pk data =>
      obtain ⟨htracks, hk⟩ := Option.ite_none_right_eq_some.1 h
      obtain rfl := Option.some.inj hk
      exact ⟨Option.some.inj hop, (Bool.and_eq_true_iff.1 htracks).1⟩
    | entryOrNew ty' pk =>
      obtain rfl := Option.some.inj h
      exact ⟨Option.some.inj hop, rfl⟩
    | _ => cases h

/-! ## Writes one after another -/

theorem Regular.foldl_apply (hm : m.Regular) (now : Instant) (ws : List Write) :
    (ws.foldl (Write.apply now) m).Regular := by
  induction ws generalizing m with
  | nil => exact hm
  | cons w ws ih => exact ih (hm.apply now w)

theorem entryById?_foldl_apply (now : Instant) (ws : List Write) {u : Uuid} (hu : m.mappings.entryById? u = none) :
    (ws.foldl (Write.apply now) m).mappings.entryById? u = none := by
  induction ws generalizing m with
  | nil => exact hu
  | cons w ws ih => exact ih (entryById?_apply now w hu)

theorem alike_foldl_apply (hm : m.Regular) (now : Instant) {ws : List Write} (hws : ∀ w ∈ ws, w.entityType ≠ ty) :
    Alike ty m (ws.foldl (Write.apply now) m) := by
  induction ws generalizing m with
  | nil => exact .refl ty m
  | cons w ws ih =>
    rw [List.forall_mem_cons] at hws
    exact (alike_apply hm now hws.1).trans (ih (hm.apply now w) hws.2)

theorem Alike.foldl_apply (h : Alike ty m m') (hm : m.Regular) (hm' : m'.Regular) (now now' : Instant)
    {ws : List Write} (hws : ∀ w ∈ ws, w.entityType = ty) :
    Alike ty (ws.foldl (Write.apply now) m) (ws.foldl (Write.apply now') m') := by
  induction ws generalizing m m' with
  | nil => exact h
  | cons w ws ih =>
    rw [List.forall_mem_cons] at hws
    exact ih (h.apply hm hm' now now' hws.1) (hm.apply now w) (hm'.apply now' w) hws.2

/-! ## One operation -/

/-- **An operation on another entity type leaves everything alike.** -/
theorem alike_outcome (hm : m.Regular) {ty' : String} (hop : op.entityType? = some ty') (hne : ty' ≠ ty)
    (hfree : op.draws registry = true → m.mappings.entryById? t.draw = none) :
    Alike ty m (op.outcome registry m t) := by
  have hwritten : Alike ty m (op.written registry m t) :=
    alike_foldl_apply hm t.now fun w hw => entityType_of_mem_writes hop w hw ▸ hne
  unfold StoreOp.outcome
  split
  next ty₁ pk henters =>
    obtain ⟨rfl, hdraws⟩ := of_enters hop henters
    exact hwritten.trans
      (alike_enter (hm.foldl_apply t.now _) (entryById?_foldl_apply t.now _ (hfree hdraws)) hne pk)
  next => exact hwritten

variable (registry) in
/-- An operation does the same to states that are alike. -/
theorem Alike.writes (h : Alike ty m m') (hop : op.entityType? = some ty) :
    op.writes registry m = op.writes registry m' ∧ op.enters registry m = op.enters registry m' := by
  cases op with
  | load ty' rows => exact ⟨rfl, rfl⟩
  | call c =>
    cases c with
    | create ty' data =>
      obtain rfl : ty' = ty := Option.some.inj hop
      simp [StoreOp.writes, StoreOp.enters, h.nextKey]
    | createAt ty' pk data =>
      obtain rfl : ty' = ty := Option.some.inj hop
      have hnone : (m.row? ty' pk).isNone = (m'.row? ty' pk).isNone := by
        rw [← Option.not_isSome, ← Option.not_isSome, h.isSome_row?]
      simp [StoreOp.writes, StoreOp.enters, hnone]
    | delete ty' pk =>
      obtain rfl : ty' = ty := Option.some.inj hop
      simp [StoreOp.writes, StoreOp.enters, h.isSome_row?]
    | _ => exact ⟨rfl, rfl⟩

/-- **The same operation leaves states alike that were so**, if it draws the same unused id in both. -/
theorem Alike.outcome (h : Alike ty m m') (hm : m.Regular) (hm' : m'.Regular) (hop : op.entityType? = some ty)
    (hdraw : op.draws registry = true → t.draw = t'.draw ∧ m.mappings.entryById? t.draw = none ∧
      m'.mappings.entryById? t'.draw = none) :
    Alike ty (op.outcome registry m t) (op.outcome registry m' t') := by
  obtain ⟨hwrites, henters⟩ := h.writes registry hop
  have hwritten : Alike ty (op.written registry m t) (op.written registry m' t') := by
    rw [StoreOp.written, StoreOp.written, ← hwrites]
    exact h.foldl_apply hm hm' t.now t'.now (entityType_of_mem_writes hop)
  unfold StoreOp.outcome
  rw [← henters]
  split
  next ty₁ pk hsome =>
    obtain ⟨rfl, hdraws⟩ := of_enters hop hsome
    obtain ⟨hsame, hfree, hfree'⟩ := hdraw hdraws
    exact hwritten.enter (hm.foldl_apply t.now _) (hm'.foldl_apply t'.now _) hsame
      (entryById?_foldl_apply t.now _ hfree) (entryById?_foldl_apply t'.now _ hfree') pk
  next => exact hwritten

/-- Other ids than the one that is drawn are unused as before. -/
theorem entryById?_outcome (hop : op.entityType? = some ty) {u : Uuid} (hu : m.mappings.entryById? u = none)
    (hdraw : op.draws registry = true → t.draw ≠ u) :
    (op.outcome registry m t).mappings.entryById? u = none := by
  have hwritten : (op.written registry m t).mappings.entryById? u = none := entryById?_foldl_apply t.now _ hu
  unfold StoreOp.outcome
  split
  next ty₁ pk henters =>
    change ((op.written registry m t).mappings.enter ty₁ pk t.now t.draw).entryById? u = none
    rw [MappingTable.enter]
    split
    · exact hwritten
    · rw [MappingTable.entryById?_add, if_neg (hdraw (of_enters hop henters).2)]
      exact hwritten
  next => exact hwritten

/-! ## Queries -/

theorem sort_timeless (order : Option SortKey) (rows : List AnnotatedRow) :
    (sort order rows).map AnnotatedRow.timeless = sort order (rows.map AnnotatedRow.timeless) := by
  have hpk : (rows.mergeSort fun a b => a.row.pk ≤ b.row.pk).map AnnotatedRow.timeless =
      (rows.map AnnotatedRow.timeless).mergeSort fun a b => a.row.pk ≤ b.row.pk :=
    List.map_mergeSort fun _ _ _ _ => rfl
  have hid : (rows.mergeSort fun a b => publicIdLe a.publicId b.publicId).map AnnotatedRow.timeless =
      (rows.map AnnotatedRow.timeless).mergeSort fun a b => publicIdLe a.publicId b.publicId :=
    List.map_mergeSort fun _ _ _ _ => rfl
  match order with
  | none => rfl
  | some ⟨.pk, .asc⟩ => exact hpk
  | some ⟨.pk, .desc⟩ => exact List.map_reverse.trans (congrArg List.reverse hpk)
  | some ⟨.publicId, .asc⟩ => exact hid
  | some ⟨.publicId, .desc⟩ => exact List.map_reverse.trans (congrArg List.reverse hid)

theorem sift_timeless (q : RowQuery) (idOf : Int64 → Option Uuid) (rows : List Row) :
    (sift q idOf rows).map AnnotatedRow.timeless = sift q idOf (rows.map Row.timeless) := by
  simp only [sift, List.filter_map, List.map_map]
  rfl

/-- A query finds the same in states that are alike. -/
theorem Alike.select {q : RowQuery} (h : Alike q.entityType m m') (hm : m.Regular) (hm' : m'.Regular) :
    (m.select q).map AnnotatedRow.timeless = (m'.select q).map AnnotatedRow.timeless := by
  have hstored : (m.stored q.entityType).map Row.timeless = (m'.stored q.entityType).map Row.timeless := by
    have hrows := congrArg (List.map Prod.snd) h.rows
    rw [List.map_map, List.map_map] at hrows
    rw [stored, stored, List.map_map, List.map_map]
    exact hrows
  have hids : m.mappings.idOf? q.entityType = m'.mappings.idOf? q.entityType := funext (h.idOf? hm hm')
  rw [select_eq_sift, select_eq_sift, sort_timeless, sort_timeless, sift_timeless, sift_timeless, hstored, hids]

theorem Alike.fetch {q : RowQuery} (h : Alike q.entityType m m') (hm : m.Regular) (hm' : m'.Regular) :
    (m.fetch q).map (List.map AnnotatedRow.timeless) = (m'.fetch q).map (List.map AnnotatedRow.timeless) := by
  have hselect := h.select hm hm'
  unfold Memory.fetch
  cases q.validate with
  | error f => rfl
  | ok _ =>
    refine congrArg Except.ok ?_
    cases q.limit with
    | none => exact (List.map_drop ..).trans ((congrArg (List.drop q.offset) hselect).trans (List.map_drop ..).symm)
    | some n =>
      change ((m.select q).drop q.offset |>.take n).map _ = ((m'.select q).drop q.offset |>.take n).map _
      rw [List.map_take, List.map_drop, hselect, List.map_take, List.map_drop]

theorem Alike.countRows {q : RowQuery} (h : Alike q.entityType m m') (hm : m.Regular) (hm' : m'.Regular) :
    m.countRows q = m'.countRows q := by
  have hlength := congrArg List.length (h.select hm hm')
  rw [List.length_map, List.length_map] at hlength
  unfold Memory.countRows
  rw [hlength]

/-! ## Replies -/

/-- **The same operation has the same reply in states that are alike**, if it draws the same unused id in both. -/
theorem Alike.reply (h : Alike ty m m') (hm : m.Regular) (hm' : m'.Regular) (hop : op.entityType? = some ty)
    (hdraw : op.draws registry = true → t.draw = t'.draw ∧ m.mappings.entryById? t.draw = none ∧
      m'.mappings.entryById? t'.draw = none) :
    op.timeless (m.perform registry flag t op).1 = op.timeless (m'.perform registry flag' t' op).1 := by
  have hfree : op.draws registry = true → m.mappings.entryById? t.draw = none := fun h => (hdraw h).2.1
  have hfree' : op.draws registry = true → m'.mappings.entryById? t'.draw = none := fun h => (hdraw h).2.2
  cases op with
  | load ty' rows => rfl
  | call c =>
    cases c with
    | row ty' pk =>
      obtain rfl : ty' = ty := Option.some.inj hop
      exact congrArg Except.ok (h.row? pk)
    | keys ty' after limit =>
      obtain rfl : ty' = ty := Option.some.inj hop
      change Except.ok (m.keys ty' after limit) = .ok (m'.keys ty' after limit)
      rw [Memory.keys, Memory.keys, h.keys]
    | existing ty' pks =>
      obtain rfl : ty' = ty := Option.some.inj hop
      change Except.ok (m.existing ty' pks) = .ok (m'.existing ty' pks)
      simp only [Memory.existing, h.isSome_row?]
    | fetch q =>
      obtain rfl : q.entityType = ty := Option.some.inj hop
      exact h.fetch hm hm'
    | countRows q =>
      obtain rfl : q.entityType = ty := Option.some.inj hop
      exact h.countRows hm hm'
    | create ty' data =>
      obtain rfl : ty' = ty := Option.some.inj hop
      change Except.map _ (m.create registry t ty' data).1 = Except.map _ (m'.create registry t' ty' data).1
      rw [create_of_free hm ty' data hfree, create_of_free hm' ty' data hfree', h.nextKey]
      split
      · rfl
      · rfl
    | createAt ty' pk data =>
      obtain rfl : ty' = ty := Option.some.inj hop
      change Except.map _ (m.createAt registry t ty' pk data).1 = Except.map _ (m'.createAt registry t' ty' pk data).1
      rw [createAt_of_free hm ty' pk data hfree, createAt_of_free hm' ty' pk data hfree', h.isSome_row?]
      split
      · split
        · rfl
        · rfl
      · rfl
    | delete ty' pk =>
      obtain rfl : ty' = ty := Option.some.inj hop
      change Except.ok (m.delete ty' pk).1 = .ok (m'.delete ty' pk).1
      rw [delete_eq, delete_eq, h.isSome_row?]
      split
      · rfl
      · rfl
    | entryOf ty' pk =>
      obtain rfl : ty' = ty := Option.some.inj hop
      exact congrArg Except.ok (h.entries pk)
    | entryOrNew ty' pk =>
      obtain rfl : ty' = ty := Option.some.inj hop
      change Except.map _ (m.entryOrNew t ty' pk).1 = Except.map _ (m'.entryOrNew t' ty' pk).1
      rw [entryOrNew_of_free hm (hfree rfl), entryOrNew_of_free hm' (hfree' rfl), ← (hdraw rfl).1]
      exact congrArg Except.ok (h.entered pk t.now t'.now t.draw)
    | mapped ty' pks =>
      obtain rfl : ty' = ty := Option.some.inj hop
      change Except.ok (m.mappings.mapped ty' pks) = .ok (m'.mappings.mapped ty' pks)
      simp only [MappingTable.mapped, h.idOf? hm hm']
    | unmap ty' pk =>
      obtain rfl : ty' = ty := Option.some.inj hop
      have hsome : (m.mappings.remove ty' pk).1.isSome = (m'.mappings.remove ty' pk).1.isSome := by
        rw [MappingTable.remove_fst, MappingTable.remove_fst, ← Option.isSome_map (f := MappingEntry.timeless),
          h.entries, Option.isSome_map]
      change Except.ok _ = Except.ok _
      rw [hsome]
    | countEntries ty? =>
      obtain rfl : ty? = some ty := hop
      exact congrArg Except.ok h.count
    | entryById u => cases hop
    | insertEntries es => cases hop
    | flag => cases hop
    | stamp => cases hop

end Memory

/-! ## Courses of operations -/

/-- An operation, and the moment at which it is done. -/
structure Step where
  op : StoreOp
  moment : Moment

namespace Step

variable (registry : Registry)

def isAbout (ty : String) (s : Step) : Bool := s.op.entityType? = some ty

/-- The id that is drawn for an entry, where the operation may make one; if it makes none, the id is not looked at and
can be any unused one. -/
def drawn? (s : Step) : Option Uuid := if s.op.draws registry then some s.moment.draw else none

/-- Ids that are drawn one after another are not drawn twice. -/
theorem nodup_drawn_cons {op : StoreOp} {t : Moment} {steps : List Step}
    (h : ((⟨op, t⟩ :: steps : List Step).filterMap (drawn? registry)).Nodup) :
    (steps.filterMap (drawn? registry)).Nodup ∧
      ∀ u ∈ steps.filterMap (drawn? registry), op.draws registry = true → t.draw ≠ u := by
  by_cases hdraws : op.draws registry = true
  · have hfirst : drawn? registry ⟨op, t⟩ = some t.draw := if_pos hdraws
    rw [List.filterMap_cons_some hfirst] at h
    exact ⟨h.of_cons, fun u hu _ heq => (List.nodup_cons.1 h).1 (heq ▸ hu)⟩
  · have hfirst : drawn? registry ⟨op, t⟩ = none := if_neg hdraws
    rw [List.filterMap_cons_none hfirst] at h
    exact ⟨h, fun u _ hdraws' => absurd hdraws' hdraws⟩

/-- An operation with the id that it draws, whenever it is done. -/
def bare (s : Step) : StoreOp × Option Uuid := (s.op, s.drawn? registry)

end Step

namespace Memory

/-- The replies to operations one after another. -/
def replies (registry : Registry) (flag : Bool) : List Step → Memory → List ((op : StoreOp) × op.Reply)
  | [], _ => []
  | s :: steps, m =>
    let (r, m) := m.perform registry flag s.moment s.op
    ⟨s.op, r⟩ :: replies registry flag steps m

/-- The replies to operations on an entity type, times apart. -/
def repliesAbout (ty : String) (rs : List ((op : StoreOp) × op.Reply)) : List ((op : StoreOp) × op.Reply) :=
  (rs.filter fun r => r.1.entityType? = some ty).map fun r => ⟨r.1, r.1.timeless r.2⟩

variable {registry : Registry} {flag flag' : Bool} {ty : String}

theorem regular_perform {m : Memory} (hm : m.Regular) (t : Moment) (op : StoreOp) :
    (m.perform registry flag t op).2.Regular := by
  cases op with
  | call c => exact hm.answer flag c
  | load ty rows => exact hm.load t.now ty rows

theorem repliesAbout_cons_of_eq {op : StoreOp} (hop : op.entityType? = some ty) (r : op.Reply)
    (rs : List ((op : StoreOp) × op.Reply)) :
    repliesAbout ty (⟨op, r⟩ :: rs) = ⟨op, op.timeless r⟩ :: repliesAbout ty rs := by
  simp [repliesAbout, hop]

theorem repliesAbout_cons_of_ne {op : StoreOp} {ty' : String} (hop : op.entityType? = some ty') (hne : ty' ≠ ty)
    (r : op.Reply) (rs : List ((op : StoreOp) × op.Reply)) :
    repliesAbout ty (⟨op, r⟩ :: rs) = repliesAbout ty rs := by
  simp [repliesAbout, hop, hne]

variable (registry flag) in
/-- There is a reply to each operation, and to no other one. -/
theorem map_fst_replies (steps : List Step) (m : Memory) :
    (m.replies registry flag steps).map (·.1) = steps.map (·.op) := by
  induction steps generalizing m with
  | nil => rfl
  | cons s steps ih => exact congrArg (s.op :: ·) (ih _)

/-- Two states that are alike for an entity type, and a course that draws ids that are unused in both, none of them
twice. -/
structure Ready (registry : Registry) (ty : String) (steps : List Step) (m m' : Memory) : Prop where
  alike : Alike ty m m'
  regular : m.Regular
  regular' : m'.Regular
  nodup : (steps.filterMap (Step.drawn? registry)).Nodup
  free : ∀ u ∈ steps.filterMap (Step.drawn? registry), m.mappings.entryById? u = none
  free' : ∀ u ∈ steps.filterMap (Step.drawn? registry), m'.mappings.entryById? u = none

namespace Ready

variable {op : StoreOp} {t t' : Moment} {steps : List Step} {m m' : Memory}

/-- The first id is unused. -/
theorem unused (h : Ready registry ty (⟨op, t⟩ :: steps) m m') (hdraws : op.draws registry = true) :
    m.mappings.entryById? t.draw = none ∧ m'.mappings.entryById? t.draw = none := by
  have hmem : t.draw ∈ (⟨op, t⟩ :: steps).filterMap (Step.drawn? registry) :=
    List.mem_filterMap.2 ⟨⟨op, t⟩, List.mem_cons_self, if_pos hdraws⟩
  exact ⟨h.free _ hmem, h.free' _ hmem⟩

/-- The ids that come later are unused, and other ones. -/
theorem later (h : Ready registry ty (⟨op, t⟩ :: steps) m m') {u : Uuid}
    (hu : u ∈ steps.filterMap (Step.drawn? registry)) :
    m.mappings.entryById? u = none ∧ m'.mappings.entryById? u = none ∧ (op.draws registry = true → t.draw ≠ u) := by
  obtain ⟨s, hs, hdrawn⟩ := List.mem_filterMap.1 hu
  have hmem := List.mem_filterMap.2 ⟨s, List.mem_cons_of_mem ⟨op, t⟩ hs, hdrawn⟩
  exact ⟨h.free u hmem, h.free' u hmem, (Step.nodup_drawn_cons registry h.nodup).2 u hu⟩

/-- The first course goes on by itself with an operation on another entity type. -/
theorem other (h : Ready registry ty (⟨op, t⟩ :: steps) m m') {ty' : String} (hop : op.entityType? = some ty')
    (hne : ty' ≠ ty) : Ready registry ty steps (m.perform registry flag t op).2 m' := by
  have hnext : (m.perform registry flag t op).2 = op.outcome registry m t :=
    perform_snd h.regular hop fun hdraws => (h.unused hdraws).1
  refine ⟨?_, regular_perform h.regular t op, h.regular', (Step.nodup_drawn_cons registry h.nodup).1, fun u hu => ?_,
    fun u hu => (h.later hu).2.1⟩
  · have hsame : Alike ty m (op.outcome registry m t) :=
      alike_outcome h.regular hop hne fun hdraws => (h.unused hdraws).1
    exact hnext ▸ hsame.symm.trans h.alike
  · exact hnext ▸ entryById?_outcome hop (h.later hu).1 (h.later hu).2.2

/-- Both courses go on with the same operation on the entity type. -/
theorem own (h : Ready registry ty (⟨op, t⟩ :: steps) m m') (hop : op.entityType? = some ty)
    (hdraw : op.draws registry = true → t.draw = t'.draw) :
    Ready registry ty steps (m.perform registry flag t op).2 (m'.perform registry flag' t' op).2 := by
  have hfree' : op.draws registry = true → m'.mappings.entryById? t'.draw = none := fun hdraws =>
    hdraw hdraws ▸ (h.unused hdraws).2
  have hnext : (m.perform registry flag t op).2 = op.outcome registry m t :=
    perform_snd h.regular hop fun hdraws => (h.unused hdraws).1
  have hnext' : (m'.perform registry flag' t' op).2 = op.outcome registry m' t' :=
    perform_snd h.regular' hop hfree'
  refine ⟨?_, regular_perform h.regular t op, regular_perform h.regular' t' op,
    (Step.nodup_drawn_cons registry h.nodup).1, fun u hu => ?_, fun u hu => ?_⟩
  · rw [hnext, hnext']
    exact h.alike.outcome h.regular h.regular' hop fun hdraws => ⟨hdraw hdraws, (h.unused hdraws).1, hfree' hdraws⟩
  · exact hnext ▸ entryById?_outcome hop (h.later hu).1 (h.later hu).2.2
  · rw [hnext']
    exact entryById?_outcome hop (h.later hu).2.1 fun hdraws => hdraw hdraws ▸ (h.later hu).2.2 hdraws

/-- **Courses that are the same for an entity type have the same replies for it.** -/
theorem replies {steps' : List Step} (h : Ready registry ty steps m m')
    (htyped : ∀ s ∈ steps, s.op.entityType?.isSome = true)
    (hsame : steps'.map (Step.bare registry) = (steps.filter (Step.isAbout ty)).map (Step.bare registry)) :
    repliesAbout ty (Memory.replies registry flag steps m) =
      repliesAbout ty (Memory.replies registry flag' steps' m') := by
  -- at an operation on another entity type the second course stays where it is
  induction steps generalizing m m' steps' with
  | nil =>
    obtain rfl := List.map_eq_nil_iff.1 hsame
    rfl
  | cons s steps ih =>
    obtain ⟨op, t⟩ := s
    rw [List.forall_mem_cons] at htyped
    obtain ⟨ty', hop : op.entityType? = some ty'⟩ := Option.isSome_iff_exists.1 htyped.1
    by_cases hty : ty' = ty
    · subst hty
      rw [List.filter_cons_of_pos (show Step.isAbout ty' ⟨op, t⟩ = true from decide_eq_true hop), List.map_cons,
        List.map_eq_cons_iff] at hsame
      obtain ⟨⟨op', t'⟩, rest, rfl, hbare, hrest⟩ := hsame
      obtain ⟨rfl, hids⟩ := Prod.mk.inj hbare
      have hdraw : op'.draws registry = true → t.draw = t'.draw := fun hdraws => by
        rw [Step.drawn?, Step.drawn?, if_pos hdraws, if_pos hdraws] at hids
        exact (Option.some.inj hids).symm
      have hreply : op'.timeless (m.perform registry flag t op').1 =
          op'.timeless (m'.perform registry flag' t' op').1 :=
        h.alike.reply h.regular h.regular' hop fun hdraws =>
          ⟨hdraw hdraws, (h.unused hdraws).1, hdraw hdraws ▸ (h.unused hdraws).2⟩
      rw [Memory.replies, Memory.replies, repliesAbout_cons_of_eq hop, repliesAbout_cons_of_eq hop, hreply,
        ih (h.own hop hdraw) htyped.2 hrest]
    · have hnot : ¬Step.isAbout ty ⟨op, t⟩ = true := by simpa [Step.isAbout, hop] using hty
      rw [List.filter_cons_of_neg hnot] at hsame
      rw [Memory.replies, repliesAbout_cons_of_ne hop hty, ih (h.other hop hty) htyped.2 hsame]

end Ready

end Memory

/-- **Entity types are separate.** In a course of operations on entity types that draws no id twice, the replies to the
operations on one type are, times apart, those to these operations alone, done one after another at any moments that
draw the same ids for entries. -/
theorem entityTypes_separate (registry : Registry) (ty : String) (flag flag' : Bool) (steps steps' : List Step)
    (htyped : ∀ s ∈ steps, s.op.entityType?.isSome = true)
    (hdrawn : (steps.filterMap (Step.drawn? registry)).Nodup)
    (hsame : steps'.map (Step.bare registry) = (steps.filter (Step.isAbout ty)).map (Step.bare registry)) :
    Memory.repliesAbout ty (Memory.empty.replies registry flag steps) =
      (Memory.empty.replies registry flag' steps').map fun r => ⟨r.1, r.1.timeless r.2⟩ := by
  have hready : Memory.Ready registry ty steps .empty .empty :=
    ⟨.refl ty _, .empty, .empty, hdrawn, fun _ _ => rfl, fun _ _ => rfl⟩
  have habout : ∀ op ∈ steps'.map (·.op), op.entityType? = some ty := by
    have hops := congrArg (List.map Prod.fst) hsame
    rw [List.map_map, List.map_map] at hops
    rw [show steps'.map (·.op) = (steps.filter (Step.isAbout ty)).map (·.op) from hops]
    exact List.forall_mem_map.2 fun s hs => of_decide_eq_true (List.mem_filter.1 hs).2
  have hall : ∀ r ∈ Memory.empty.replies registry flag' steps', r.1.entityType? = some ty := fun r hr =>
    habout r.1 (Memory.map_fst_replies registry flag' steps' .empty ▸ List.mem_map_of_mem hr)
  rw [hready.replies htyped hsame, Memory.repliesAbout, List.filter_eq_self.2 fun r hr => decide_eq_true (hall r hr)]

/-- The first widget is made, found and counted as if there had never been a gadget under the same key. -/
theorem entityTypes_separate_widget :
    Memory.repliesAbout "shop.widget" (Memory.empty.replies .widgets true
        [⟨.load "shop.gadget" [(1, .null)], .counted 0⟩, ⟨.call (.entryOrNew "shop.gadget" 1), .counted 1⟩,
          ⟨.call (.create "shop.widget" .null), .counted 2⟩, ⟨.call (.delete "shop.gadget" 1), .counted 3⟩,
          ⟨.call (.entryOf "shop.widget" 1), .counted 4⟩, ⟨.call (.entryOrNew "shop.gadget" 1), .counted 5⟩,
          ⟨.call (.countEntries (some "shop.widget")), .counted 6⟩]) =
      (Memory.empty.replies .widgets false
        [⟨.call (.create "shop.widget" .null), ⟨⟨7, 0⟩, .ending 2, []⟩⟩,
          ⟨.call (.entryOf "shop.widget" 1), ⟨⟨8, 0⟩, .ending 2, []⟩⟩,
          ⟨.call (.countEntries (some "shop.widget")), ⟨⟨9, 0⟩, .ending 2, []⟩⟩]).map fun r =>
        ⟨r.1, r.1.timeless r.2⟩ :=
  entityTypes_separate .widgets "shop.widget" true false _ _ (by decide) (by decide) rfl

end RowIdentity
