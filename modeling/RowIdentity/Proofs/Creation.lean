import RowIdentity.Proofs.Separation.State
import RowIdentity.Proofs.Serving.FreshRow
import RowIdentity.Proofs.Stability

/-!
# Keys are handed out once

* `StoreOp.issued`, `World.issuedAlong` — the keys that creations return and loads bring along, for one operation and
  for a course of operations;
* `HaveRoom` — no creation of a course finds a counter of keys that has run over;
* `World.sequence_le_perform`, `World.le_sequence_of_issued` — no operation lowers a counter, and **no key that is
  handed out or loaded is beyond its counter**, not even after its row is gone;
* `Memory.PutIn` — one row more, under a key that was free, and nothing else is touched;
* `Memory.Creation` — what a call that creates a row can come to, said once for both calls;
* `creation_never_reuses` — **a creation takes a new key, replaces nothing, and changes nothing when it fails**.
-/

namespace RowIdentity

/-! ## Courses of operations and their keys -/

/-- The keys that a call hands out, with their entity types. -/
def BackendCall.issued : (c : BackendCall) → c.Reply → List (String × Int64)
  | .create ty _, .ok r => [(ty, r.pk)]
  | _, _ => []

namespace StoreOp

/-- The entity types whose keys an operation counts. -/
def counts : StoreOp → List String
  | .call c => c.counts
  | .load .. => []

/-- The keys that an operation hands out or loads, with their entity types. -/
def issued (registry : Registry) (moments : Nat → Moment) (w : World) : StoreOp → List (String × Int64)
  | .call c => c.issued (w.answer registry moments c).1
  | .load ty rows => rows.map fun p => (ty, p.1)

end StoreOp

/-- The keys that a course of operations hands out or loads. -/
def World.issuedAlong (registry : Registry) (moments : Nat → Moment) : World → List StoreOp → List (String × Int64)
  | _, [] => []
  | w, op :: ops => op.issued registry moments w ++ (w.perform registry moments op).issuedAlong registry moments ops

/-- Whenever the course creates a row, there is a key left beyond those that were counted and those in the table. -/
def HaveRoom (registry : Registry) (moments : Nat → Moment) : World → List StoreOp → Prop
  | _, [] => True
  | w, op :: ops =>
    (∀ ty ∈ op.counts, w.memory.HasRoom ty) ∧ HaveRoom registry moments (w.perform registry moments op) ops

variable {registry : Registry} {moments : Nat → Moment} {t : Moment} {m m' : Memory} {w : World} {ty : String}
  {pk : Int64}

theorem one_le_of_pos {k : Int64} (h : 0 < k) : 1 ≤ k := by
  have hzero : (0 : Int64).toInt = 0 := by decide
  have hone : (1 : Int64).toInt = 1 := by decide
  rw [Int64.lt_iff_toInt_lt, hzero] at h
  rw [Int64.le_iff_toInt_le, hone]
  omega

/-! ## Counters along a course -/

namespace Memory

/-- Rows that are loaded are in the table, and so are those that were there before. -/
theorem mem_keys_foldl_putRow (now : Instant) (rows : List (Int64 × Json)) (m : Memory)
    (h : pk ∈ Assoc.keys (m.table ty) ∨ pk ∈ rows.map (·.1)) :
    pk ∈ Assoc.keys ((rows.foldl (fun m p => m.putRow ⟨ty, p.1, p.2, now⟩) m).table ty) := by
  induction rows generalizing m with
  | nil => exact h.resolve_right List.not_mem_nil
  | cons p rows ih =>
    refine ih (m.putRow ⟨ty, p.1, p.2, now⟩) ?_
    have htable : (m.putRow ⟨ty, p.1, p.2, now⟩).table ty = Assoc.putSorted (m.table ty) p.1 ⟨ty, p.1, p.2, now⟩ := by
      rw [table_putRow, if_pos rfl]
    rw [htable, Assoc.mem_keys_putSorted]
    rcases h with h | h
    · exact .inl (.inr h)
    · rcases List.mem_cons.1 h with rfl | h
      · exact .inl (.inl rfl)
      · exact .inr h

/-- A load leaves no key of its rows beyond the counter. -/
theorem Regular.le_sequence_load (hm : m.Regular) (now : Instant) {rows : List (Int64 × Json)}
    (h : pk ∈ rows.map (·.1)) : pk ≤ (m.load now ty rows).2.sequence ty := by
  have hlast : pk ≤ (m.load now ty rows).2.lastKey ty :=
    (hm.load now ty rows).le_lastKey (mem_keys_foldl_putRow now rows m (.inr h))
  have hraised : (m.load now ty rows).2.sequence ty =
      max ((rows.foldl (fun m p => m.putRow ⟨ty, p.1, p.2, now⟩) m).sequence ty) ((m.load now ty rows).2.lastKey ty) :=
    (sequence_setSequence _ ty ty _).trans (if_pos rfl)
  rw [hraised]
  exact Int64.le_trans hlast (key_le_max_right _ _)

end Memory

namespace World

/-- **No operation lowers a counter.** -/
theorem sequence_le_perform {op : StoreOp} (hroom : ∀ ty ∈ op.counts, w.memory.HasRoom ty) (ty : String) :
    w.memory.sequence ty ≤ (w.perform registry moments op).memory.sequence ty := by
  cases op with
  | load ty' rows => exact Memory.sequence_le_load _ w.memory ty' rows ty
  | call c =>
    change w.memory.sequence ty ≤ (w.memory.answer registry _ (moments w.calls) c).2.sequence ty
    by_cases hc : c.counts = []
    · rw [Memory.sequence, Memory.sequence, Memory.sequences_answer hc]
      exact Int64.le_refl _
    cases c with
    | create ty' data =>
      change _ ≤ (w.memory.create registry (moments w.calls) ty' data).2.sequence ty
      rcases heq : w.memory.create registry (moments w.calls) ty' data with ⟨_ | r, m'⟩
      · rw [Memory.create_error heq]
        exact Int64.le_refl _
      · rw [Memory.sequence_create heq]
        split
        next hty =>
          subst hty
          exact Int64.le_of_lt (Memory.sequence_lt_nextKey (hroom ty' List.mem_cons_self))
        next => exact Int64.le_refl _
    | _ => exact absurd rfl hc

/-- A key that an operation hands out or loads is counted when it is done. -/
theorem le_sequence_perform (hw : w.memory.Regular) {op : StoreOp} (h : (ty, pk) ∈ op.issued registry moments w) :
    pk ≤ (w.perform registry moments op).memory.sequence ty := by
  cases op with
  | load ty' rows =>
    obtain ⟨p, hp, heq⟩ := List.mem_map.1 h
    obtain ⟨rfl, rfl⟩ := Prod.mk.inj heq
    exact hw.le_sequence_load _ (List.mem_map_of_mem hp)
  | call c =>
    cases c with
    | create ty' data =>
      change (ty, pk) ∈ BackendCall.issued (.create ty' data)
        (w.memory.create registry (moments w.calls) ty' data).1 at h
      change pk ≤ (w.memory.create registry (moments w.calls) ty' data).2.sequence ty
      rcases heq : w.memory.create registry (moments w.calls) ty' data with ⟨_ | r, m'⟩
      · rw [heq] at h
        cases h
      · rw [heq] at h
        obtain ⟨rfl, rfl⟩ := Prod.mk.inj (List.mem_singleton.1 h)
        rw [Memory.sequence_create heq, if_pos rfl, (Memory.create_ok heq).1]
        exact Int64.le_refl _
    | countEntries ty? => cases ty? <;> cases h
    | _ => cases h

variable (registry moments) in
/-- **No key that was handed out or loaded is beyond its counter**, whatever has become of its row since. By induction
on the course: an operation counts its keys, and those that follow lower no counter. -/
theorem le_sequence_of_issued (hw : w.memory.Regular) {ops : List StoreOp} (hroom : HaveRoom registry moments w ops)
    (h : (ty, pk) ∈ w.issuedAlong registry moments ops) :
    pk ≤ (w.performAll registry moments ops).memory.sequence ty := by
  have hkept : ∀ (ops : List StoreOp) (w : World), HaveRoom registry moments w ops →
      w.memory.sequence ty ≤ (w.performAll registry moments ops).memory.sequence ty := by
    intro ops
    induction ops with
    | nil => exact fun _ _ => Int64.le_refl _
    | cons op ops ih =>
      intro w hroom
      exact Int64.le_trans (sequence_le_perform hroom.1 ty) (ih _ hroom.2)
  induction ops generalizing w with
  | nil => cases h
  | cons op ops ih =>
    rcases List.mem_append.1 h with h | h
    · exact Int64.le_trans (le_sequence_perform hw h) (hkept ops _ hroom.2)
    · exact ih (regular_perform registry moments hw op) hroom.2 h

variable (registry moments) in
theorem counted_performAll (hw : Memory.Counted registry w.memory) {ops : List StoreOp}
    (hroom : HaveRoom registry moments w ops) :
    Memory.Counted registry (w.performAll registry moments ops).memory := by
  induction ops generalizing w with
  | nil => exact hw
  | cons op ops ih =>
    refine ih ?_ hroom.2
    cases op with
    | call c => exact hw.answer _ _ c hroom.1
    | load ty rows => exact hw.load _ ty rows

end World

/-! ## One row more -/

namespace Memory

/-- The row has gone in under a key that was free; all other rows, and the entries of other rows, are what they were. -/
structure PutIn (m : Memory) (r : Row) (m' : Memory) : Prop where
  free : m.row? r.entityType r.pk = none
  stored : m'.row? r.entityType r.pk = some r
  rows : ∀ ty pk, (ty, pk) ≠ r.key → m'.row? ty pk = m.row? ty pk
  entries : ∀ ty pk, (ty, pk) ≠ r.key → m'.mappings.entriesOf ty pk = m.mappings.entriesOf ty pk

theorem Inserted.putIn {r : Row} (h : Inserted registry t m r m') (hm : m.Regular)
    (hfree : m.row? r.entityType r.pk = none) : PutIn m r m' := by
  refine ⟨hfree, h.row?, fun ty pk hne => ?_, fun ty pk hne => ?_⟩
  · rw [row?_congr h.tables, row?_putRow, if_neg]
    rintro ⟨rfl, rfl⟩
    exact hne rfl
  · rw [(hm.inserted h).coherent.entriesOf_eq, hm.coherent.entriesOf_eq]
    congr 1
    have hmap := h.mappings
    split at hmap
    next =>
      obtain ⟨e, rest, hget⟩ := hmap
      rcases hm.coherent.getOrInsert_cases hget with ⟨-, heq⟩ | ⟨-, hunused, he, -, heq⟩
      · rw [heq]
      · have hkey : (e.entityType, e.rowKey) = r.key := by
          rw [he]
          rfl
        rw [heq, hm.coherent.entryOf?_add hunused, hkey, if_neg hne.symm]
    next => rw [hmap]

/-- What a call that creates a row can come to, under a given key or, without one, under the next. -/
inductive Creation (registry : Registry) (t : Moment) (ty : String) (pk? : Option Int64) (data : Json) (m : Memory) :
    Except Fault Row × Memory → Prop
  /-- Nothing is registered under the entity type. -/
  | unknown (hmodel : registry.get? ty = none) :
      Creation registry t ty pk? data m (.error (.known (.unknownType ty)), m)
  /-- The given key is taken. -/
  | taken {pk : Int64} (hmodel : (registry.get? ty).isSome = true) (hpk : pk? = some pk)
      (hrow : (m.row? ty pk).isSome = true) :
      Creation registry t ty pk? data m
        (.error (.plain (ty ++ " with pk " ++ Decimal.text pk.toInt ++ " already exists")), m)
  /-- An entry was to be made, and every id that was drawn is in use. -/
  | drawless (hmodel : (registry.get? ty).isSome = true) (htracks : tracks registry ty = true)
      (hdraws : ∀ u ∈ t.draws, m.mappings.entryById? u ≠ none) :
      Creation registry t ty pk? data m (.error outOfDraws, m)
  /-- The row has gone in. -/
  | created {m' : Memory} (hmodel : (registry.get? ty).isSome = true)
      (hput : PutIn m ⟨ty, pk?.getD (m.nextKey ty), data, t.now⟩ m') :
      Creation registry t ty pk? data m (.ok ⟨ty, pk?.getD (m.nextKey ty), data, t.now⟩, m')

/-- An entry only fails to be made for want of an unused id. -/
theorem entryOrNew_fault {ty : String} {pk : Int64} {f : Fault} (h : entryOrNew t m ty pk = (.error f, m')) :
    f = outOfDraws := by
  unfold entryOrNew at h
  split at h
  · cases h
  · exact (Except.error.inj (Prod.mk.inj h).1).symm

/-- A row only fails to go in for want of an unused id. -/
theorem insertRow_error_cases (hm : m.Regular) {r : Row} {f : Fault}
    (h : insertRow registry t m r = (.error f, m')) :
    f = outOfDraws ∧ tracks registry r.entityType = true ∧ ∀ u ∈ t.draws, m.mappings.entryById? u ≠ none := by
  have hneeds : ¬ (tracks registry r.entityType = true → ∃ u ∈ t.draws, m.mappings.entryById? u = none) := by
    intro hdraws
    obtain ⟨m'', hok⟩ := exists_insertRow hm hdraws
    rw [hok] at h
    cases h
  obtain ⟨htracks, hnone⟩ := Classical.not_imp.1 hneeds
  refine ⟨?_, htracks, fun u hu hfree => hnone ⟨u, hu, hfree⟩⟩
  unfold insertRow at h
  simp only [htracks, if_true] at h
  split at h
  next => cases h
  next f' m'' hentry =>
    obtain rfl : f' = f := Except.error.inj (Prod.mk.inj h).1
    exact entryOrNew_fault hentry

/-- **A creation under the next key**, as long as the counter has room. -/
theorem creation_create (hm : m.Regular) (hroom : m.HasRoom ty) (t : Moment) (data : Json) :
    Creation registry t ty none data m (create registry t m ty data) := by
  rcases heq : create registry t m ty data with ⟨f | r, m'⟩
  · obtain rfl := create_error heq
    unfold create ensureRegistered at heq
    cases hmodel : registry.get? ty with
    | none =>
      simp only [hmodel] at heq
      cases heq
      exact .unknown hmodel
    | some model =>
      have hregular : (m'.setSequence ty (m'.nextKey ty)).Regular := hm.of_parts rfl hm.coherent
      simp only [hmodel] at heq
      split at heq
      next => cases heq
      next hins =>
        cases heq
        obtain ⟨rfl, htracks, hdraws⟩ := insertRow_error_cases hregular hins
        exact .drawless (Option.isSome_of_eq_some hmodel) htracks hdraws
  · obtain ⟨rfl, hmodel, hins⟩ := create_ok heq
    exact .created hmodel (hins.putIn hm ((Assoc.get?_eq_none_iff _ _).2 (hm.nextKey_not_mem hroom)))

/-- **A creation under a given key.** -/
theorem creation_createAt (hm : m.Regular) (t : Moment) (ty : String) (pk : Int64) (data : Json) :
    Creation registry t ty (some pk) data m (createAt registry t m ty pk data) := by
  unfold createAt ensureRegistered
  cases hmodel : registry.get? ty with
  | none => exact .unknown hmodel
  | some model =>
    have hsome : (registry.get? ty).isSome = true := Option.isSome_of_eq_some hmodel
    cases hrow : m.row? ty pk with
    | some r => exact .taken hsome rfl (Option.isSome_of_eq_some hrow)
    | none =>
      rcases heq : insertRow registry t m ⟨ty, pk, data, t.now⟩ with ⟨f | r, m'⟩
      · obtain rfl := insertRow_error heq
        obtain ⟨rfl, htracks, hdraws⟩ := insertRow_error_cases hm heq
        exact .drawless hsome htracks hdraws
      · obtain ⟨rfl, hins⟩ := insertRow_ok heq
        exact .created hsome (hins.putIn hm hrow)

end Memory

/-! ## Creations in the course of a run -/

/-- **Keys are handed out once.** In a course of operations none of which finds a counter of keys run over, a creation
under the next key hands out a positive key that is beyond all keys of the entity type that are stored, or have been
handed out or loaded before. Under the next key or a given one, a row goes in without touching any other row or its
entry; and a creation that fails leaves the state as it was. -/
theorem creation_never_reuses (moments : Nat → Moment) (flag : Bool) {earlier : List StoreOp}
    (hroom : HaveRoom registry moments (.empty flag) earlier) :
    let w := (World.empty flag).performAll registry moments earlier
    (∀ ty data, w.memory.HasRoom ty →
      Memory.Creation registry (moments w.calls) ty none data w.memory
        ((w.answer registry moments (.create ty data)).1, (w.answer registry moments (.create ty data)).2.memory) ∧
      ∀ r, (w.answer registry moments (.create ty data)).1 = .ok r →
        1 ≤ r.pk ∧ (∀ pk, (w.memory.row? ty pk).isSome = true → pk < r.pk) ∧
          ∀ pk, (ty, pk) ∈ (World.empty flag).issuedAlong registry moments earlier → pk < r.pk) ∧
    ∀ ty pk data, Memory.Creation registry (moments w.calls) ty (some pk) data w.memory
      ((w.answer registry moments (.createAt ty pk data)).1,
        (w.answer registry moments (.createAt ty pk data)).2.memory) := by
  intro w
  have hregular : w.memory.Regular := World.regular_performAll registry moments .empty earlier
  have hcounted : Memory.Counted registry w.memory := World.counted_performAll registry moments .empty hroom
  refine ⟨fun ty data hnext => ⟨Memory.creation_create hregular hnext _ data, fun r hr => ?_⟩,
    fun ty pk data => Memory.creation_createAt hregular _ ty pk data⟩
  obtain ⟨rfl, -, -⟩ := Memory.create_ok (Prod.ext hr rfl)
  have hbeyond : ∀ pk, pk ≤ max (w.memory.sequence ty) (w.memory.lastKey ty) → pk < w.memory.nextKey ty :=
    fun pk hle => Int64.lt_of_le_of_lt hle (Memory.max_lt_nextKey hnext)
  refine ⟨one_le_of_pos (hcounted.nextKey_pos hnext), fun pk hrow => hbeyond pk ?_, fun pk hissued => hbeyond pk ?_⟩
  · have hkey := (w.memory.mem_keys_table_iff ty pk).2 hrow
    exact Int64.le_trans (hregular.le_lastKey hkey) (key_le_max_right _ _)
  · have hle := World.le_sequence_of_issued registry moments .empty hroom hissued
    exact Int64.le_trans hle (key_le_max_left _ _)

/-- Two widgets are created, two are loaded, one is put in under a negative key, and all but the last are deleted. -/
def StoreOp.turnover : List StoreOp :=
  [.call (.create "shop.widget" .null), .call (.create "shop.widget" .null),
    .load "shop.widget" [(40, .null), (7, .null)], .call (.createAt "shop.widget" (-9) .null),
    .call (.delete "shop.widget" 40), .call (.delete "shop.widget" 2), .call (.delete "shop.widget" 1),
    .call (.delete "shop.widget" 7)]

/-- The next widget gets the key behind the greatest of them. -/
theorem creation_never_reuses_widgets :
    ∃ r, (((World.empty true).performAll .widgets .counted StoreOp.turnover).answer .widgets .counted
        (.create "shop.widget" .null)).1 = .ok r ∧ r.pk = 41 ∧ 1 ≤ r.pk ∧ 40 < r.pk := by
  have hroom : HaveRoom .widgets .counted (.empty true) StoreOp.turnover := by
    simp only [HaveRoom, StoreOp.turnover]
    decide +kernel
  have hnext : ((World.empty true).performAll .widgets .counted StoreOp.turnover).memory.HasRoom "shop.widget" := by
    decide +kernel
  have hnew := ((creation_never_reuses .counted true hroom).1 "shop.widget" .null hnext).2
  exact ⟨⟨"shop.widget", 41, .null, ⟨0, 0⟩⟩, rfl, rfl, (hnew _ rfl).1, (hnew _ rfl).2.2 40 (by decide +kernel)⟩

end RowIdentity
