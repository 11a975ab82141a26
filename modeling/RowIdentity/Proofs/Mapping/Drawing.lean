import Mathlib.Data.Stream.Init
import RowIdentity.Proofs.Counting

/-!
# The loop that draws a public id

The entry of a row is found or made in a loop: each round draws an id, and the loop goes round again until it has an
entry to return. Here the draws come from an endless stream, of which a run of the loop sees the first ones.

* `MappingTable.Reachable` — the tables that the operations lead to from the empty one; all are coherent;
* `MappingTable.EndsAfter` — the loop ends with its `n`th draw, and with what result;
* `MappingTable.spins_iff` — of any table, **when the loop never ends**: the row has a public id that leads to no entry,
  or it has none and every draw is taken;
* `MappingTable.drawing_exact` — in a reachable table, **a stream with an unused id ends the loop**, after one draw when
  the row has its entry, and with the first unused id when it has none.
-/

namespace RowIdentity.MappingTable

variable {t t' : MappingTable} {ty : String} {pk : Int64} {now : Instant}

/-! ## Reachable tables -/

/-- A table that insertions, requests for the entry of a row, and removals have led to from the empty one. -/
inductive Reachable : MappingTable → Prop where
  | empty : Reachable empty
  | insert {t : MappingTable} (e : MappingEntry) : Reachable t → Reachable (t.insert e).2
  | getOrInsert {t t' : MappingTable} {ty : String} {pk : Int64} {now : Instant} {draws rest : List Uuid}
      {e : MappingEntry} :
      Reachable t → t.getOrInsert ty pk now draws = some (e, t', rest) → Reachable t'
  | remove {t : MappingTable} (ty : String) (pk : Int64) : Reachable t → Reachable (t.remove ty pk).2

/-- **The two indexes of a reachable table are in step.** -/
theorem Reachable.coherent (h : Reachable t) : Coherent t := by
  induction h with
  | empty => exact .empty
  | insert e _ ih => exact ih.insert e
  | getOrInsert _ hget ih => exact ih.getOrInsert hget
  | remove ty pk _ ih => exact ih.remove ty pk

/-! ## Rounds that do not end the loop -/

/-- A row whose public id leads to no entry sends the loop round again, whatever is drawn. -/
theorem getOrInsert_of_dangling {u : Uuid} (hrow : t.idOf? ty pk = some u) (hentry : t.entryById? u = none)
    (now : Instant) (draws : List Uuid) : t.getOrInsert ty pk now draws = none := by
  induction draws with
  | nil => rfl
  | cons draw draws ih => simp only [getOrInsert, MappingTable.insert, hrow, hentry, ih]

/-- For a row without an entry, draws that are taken are passed over. -/
theorem getOrInsert_append_of_taken (hrow : t.idOf? ty pk = none) (now : Instant) {taken : List Uuid}
    (htaken : ∀ u ∈ taken, t.entryById? u ≠ none) (draws : List Uuid) :
    t.getOrInsert ty pk now (taken ++ draws) = t.getOrInsert ty pk now draws := by
  induction taken with
  | nil => rfl
  | cons u taken ih =>
    rw [List.cons_append, getOrInsert_of_unmapped hrow, if_neg (htaken u List.mem_cons_self)]
    exact ih fun v hv => htaken v (List.mem_cons_of_mem _ hv)

theorem getOrInsert_of_taken (hrow : t.idOf? ty pk = none) (now : Instant) {taken : List Uuid}
    (htaken : ∀ u ∈ taken, t.entryById? u ≠ none) : t.getOrInsert ty pk now taken = none := by
  have hskip := getOrInsert_append_of_taken hrow now htaken []
  rwa [List.append_nil] at hskip

/-! ## Streams of draws -/

variable {draws : Stream' Uuid}

/-- The loop never ends: no number of draws gives a result. -/
def Spins (t : MappingTable) (ty : String) (pk : Int64) (now : Instant) (draws : Stream' Uuid) : Prop :=
  ∀ k, t.getOrInsert ty pk now (draws.take k) = none

/-- The loop ends with its `n`th draw: fewer draws give no result, and any more are left over. -/
structure EndsAfter (t : MappingTable) (ty : String) (pk : Int64) (now : Instant) (draws : Stream' Uuid) (n : Nat)
    (e : MappingEntry) (t' : MappingTable) : Prop where
  before : ∀ k < n, t.getOrInsert ty pk now (draws.take k) = none
  behind : ∀ k, t.getOrInsert ty pk now (draws.take (n + k)) = some (e, t', (draws.drop n).take k)

theorem EndsAfter.not_spins {n : Nat} {e : MappingEntry} (h : t.EndsAfter ty pk now draws n e t') :
    ¬ t.Spins ty pk now draws := by
  intro hspins
  have hend := h.behind 0
  rw [hspins] at hend
  cases hend

theorem taken_of_mem_take {n : Nat} (htaken : ∀ m < n, t.entryById? (draws.get m) ≠ none) :
    ∀ u ∈ draws.take n, t.entryById? u ≠ none := by
  intro u hu
  obtain ⟨m, hm, rfl⟩ := List.mem_iff_getElem.1 hu
  rw [Stream'.length_take] at hm
  rw [Stream'.take_get]
  exact htaken m hm

/-- The entry that is there ends the loop at once. -/
theorem endsAfter_of_mapped {e : MappingEntry} (he : t.entryOf? ty pk = some e) (now : Instant)
    (draws : Stream' Uuid) : t.EndsAfter ty pk now draws 1 e t where
  before := by
    intro k hk
    obtain rfl := Nat.lt_one_iff.1 hk
    rfl
  behind := by
    intro k
    rw [Nat.add_comm, Stream'.take_succ, getOrInsert_of_mapped he]
    rfl

/-- A row without an entry is given the first unused draw. -/
theorem endsAfter_of_first (hrow : t.idOf? ty pk = none) (now : Instant) {n : Nat}
    (hfree : t.entryById? (draws.get n) = none) (htaken : ∀ m < n, t.entryById? (draws.get m) ≠ none) :
    t.EndsAfter ty pk now draws (n + 1) ⟨draws.get n, ty, pk, now⟩ (t.add ⟨draws.get n, ty, pk, now⟩) where
  before := by
    intro k hk
    refine getOrInsert_of_taken hrow now (taken_of_mem_take fun m hm => htaken m ?_)
    omega
  behind := by
    intro k
    rw [Stream'.take_add, Stream'.take_succ', List.append_assoc, List.singleton_append,
      getOrInsert_append_of_taken hrow now (taken_of_mem_take htaken), getOrInsert_of_unmapped hrow, if_pos hfree]

/-- **When the loop never ends.** The second index is looked at for what the first one named; where the two are not
in step the loop has no way out. -/
theorem spins_iff (t : MappingTable) (ty : String) (pk : Int64) (now : Instant) (draws : Stream' Uuid) :
    t.Spins ty pk now draws ↔
      (∃ u, t.idOf? ty pk = some u ∧ t.entryById? u = none) ∨
        (t.idOf? ty pk = none ∧ ∀ n, t.entryById? (draws.get n) ≠ none) := by
  constructor
  · intro hspins
    cases hrow : t.idOf? ty pk with
    | some u =>
      refine .inl ⟨u, rfl, ?_⟩
      cases hentry : t.entryById? u with
      | none => rfl
      | some e =>
        have he : t.entryOf? ty pk = some e := Option.bind_eq_some_iff.2 ⟨u, hrow, hentry⟩
        exact absurd hspins (endsAfter_of_mapped he now draws).not_spins
    | none =>
      refine .inr ⟨rfl, fun n hn => ?_⟩
      have hfree : ∃ n, t.entryById? (draws.get n) = none := ⟨n, hn⟩
      have hends := endsAfter_of_first hrow now (Nat.find_spec hfree) fun m hm => Nat.find_min hfree hm
      exact hends.not_spins hspins
  · rintro (⟨u, hrow, hentry⟩ | ⟨hrow, htaken⟩) k
    · exact getOrInsert_of_dangling hrow hentry now _
    · exact getOrInsert_of_taken hrow now (taken_of_mem_take fun m _ => htaken m)

/-! ## Reachable tables and streams with an unused id -/

/-- An entry whose row and public id are new goes behind the others, under both indexes. -/
theorem add_eq {e : MappingEntry} (hrow : t.idOf? e.entityType e.rowKey = none)
    (hid : t.entryById? e.publicId = none) :
    t.add e = ⟨t.byId ++ [(e.publicId, e)], t.byRow ++ [((e.entityType, e.rowKey), e.publicId)]⟩ := by
  rw [add, Assoc.put_of_get?_eq_none hid, Assoc.put_of_get?_eq_none hrow]

/-- The first unused draw goes to a row without an entry, and no other pair of the two indexes changes. -/
theorem Coherent.exists_endsAfter (h : Coherent t) (hnone : t.entryOf? ty pk = none) (now : Instant)
    (hfree : ∃ n, t.entryById? (draws.get n) = none) :
    ∃ n e, t.entryById? (draws.get n) = none ∧ (∀ m < n, t.entryById? (draws.get m) ≠ none) ∧
      e = ⟨draws.get n, ty, pk, now⟩ ∧
      t.EndsAfter ty pk now draws (n + 1) e
        ⟨t.byId ++ [(e.publicId, e)], t.byRow ++ [((ty, pk), e.publicId)]⟩ := by
  -- here the invariant comes in: without an entry the row has no public id either
  have hrow : t.idOf? ty pk = none := by rw [h.idOf?_eq, hnone]; rfl
  have hfirst := Nat.find_spec hfree
  have htaken : ∀ m < Nat.find hfree, t.entryById? (draws.get m) ≠ none := fun m hm => Nat.find_min hfree hm
  have hends := endsAfter_of_first hrow now hfirst htaken
  rw [add_eq hrow hfirst] at hends
  exact ⟨Nat.find hfree, _, hfirst, htaken, rfl, hends⟩

/-- **The loop ends, and its result is exact.** A row with an entry has it back after one draw, and the table stays as
it is. A row without one is given the first drawn id that is not in the table, and the two indexes have this one entry
more. -/
theorem drawing_exact (ht : t.Reachable) (ty : String) (pk : Int64) (now : Instant)
    (hfree : ∃ n, t.entryById? (draws.get n) = none) :
    (∃ n e t', t.EndsAfter ty pk now draws n e t') ∧
      (∀ e, t.entryOf? ty pk = some e → t.EndsAfter ty pk now draws 1 e t) ∧
      (t.entryOf? ty pk = none → ∃ n e, t.entryById? (draws.get n) = none ∧
        (∀ m < n, t.entryById? (draws.get m) ≠ none) ∧ e = ⟨draws.get n, ty, pk, now⟩ ∧
        t.EndsAfter ty pk now draws (n + 1) e
          ⟨t.byId ++ [(e.publicId, e)], t.byRow ++ [((ty, pk), e.publicId)]⟩) := by
  refine ⟨?_, fun e he => endsAfter_of_mapped he now draws, fun hnone => ht.coherent.exists_endsAfter hnone now hfree⟩
  cases he : t.entryOf? ty pk with
  | some e => exact ⟨1, e, t, endsAfter_of_mapped he now draws⟩
  | none =>
    obtain ⟨n, e, -, -, -, hends⟩ := ht.coherent.exists_endsAfter he now hfree
    exact ⟨n + 1, e, _, hends⟩

/-- The first widget has an entry and the second has none; the first id drawn is that of the first. -/
theorem drawing_exact_widgets :
    let first : MappingEntry := ⟨.ending 0, "shop.widget", 1, ⟨0, 0⟩⟩
    let second : MappingEntry := ⟨.ending 1, "shop.widget", 2, ⟨0, 0⟩⟩
    let t : MappingTable := (empty.insert first).2
    let draws : Stream' Uuid := fun n => (Moment.counted n).draw
    (t.Reachable ∧ ∃ n, t.entryById? (draws.get n) = none) ∧
      t.EndsAfter "shop.widget" 1 ⟨0, 0⟩ draws 1 first t ∧
      t.EndsAfter "shop.widget" 2 ⟨0, 0⟩ draws 2 second
        ⟨[(.ending 0, first), (.ending 1, second)],
          [(("shop.widget", 1), .ending 0), (("shop.widget", 2), .ending 1)]⟩ := by
  intro first second t draws
  have ht : t.Reachable := .insert first .empty
  have hfree : ∃ n, t.entryById? (draws.get n) = none := ⟨1, by decide⟩
  refine ⟨⟨ht, hfree⟩, (drawing_exact ht "shop.widget" 1 ⟨0, 0⟩ hfree).2.1 first (by decide), ?_⟩
  obtain ⟨n, e, hn, htaken, rfl, hends⟩ := (drawing_exact ht "shop.widget" 2 ⟨0, 0⟩ hfree).2.2 (by decide)
  have hone : n = 1 := by
    have hzero : t.entryById? (draws.get 0) ≠ none := by decide
    have hfirst : ¬ 1 < n := fun h => htaken 1 h (by decide)
    have : n ≠ 0 := fun h => hzero (h ▸ hn)
    omega
  subst hone
  exact hends

end RowIdentity.MappingTable
