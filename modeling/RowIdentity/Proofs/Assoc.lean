import Mathlib.Data.List.Basic
import Mathlib.Data.List.Nodup
import RowIdentity.Assoc

/-!
# The keys of an association list

* `Assoc.get?_eq_some_iff_mem` — a list without a double key holds exactly the pairs its look-ups find;
* `Assoc.find?_key_eq_some_iff` — the same of any list whose elements have keys of their own;
* `Assoc.remove_put`, `Assoc.remove_putSorted` — what is put in under a new key can be taken out again;
* `Assoc.countP_remove`, `Assoc.length_remove` — one pair goes with its key;
* `Assoc.nodup_put`, `Assoc.nodup_remove` — no operation doubles a key;
* `Assoc.ascending_putSorted`, `Assoc.ascending_remove` — a list that ascends by key goes on to ascend.
-/

namespace RowIdentity.Assoc

variable {κ ν : Type} [DecidableEq κ]

/-- The keys in the order of the list. -/
def keys (l : List (κ × ν)) : List κ := l.map (·.1)

theorem mem_of_get? {l : List (κ × ν)} {x : κ} {v : ν} (h : get? l x = some v) : (x, v) ∈ l := by
  induction l with
  | nil => simp at h
  | cons p l ih =>
    obtain ⟨k, w⟩ := p
    rw [get?_cons] at h
    split at h
    next hk =>
      obtain rfl := Option.some.inj h
      exact hk ▸ List.mem_cons_self
    next => exact List.mem_cons_of_mem _ (ih h)

theorem get?_eq_none_iff (l : List (κ × ν)) (x : κ) : get? l x = none ↔ x ∉ keys l := by
  induction l with
  | nil => simp [keys]
  | cons p l ih =>
    obtain ⟨k, w⟩ := p
    by_cases hk : k = x
    · simp [keys, hk]
    · simpa [keys, hk, Ne.symm hk] using ih

/-- Without double keys the list is the map. -/
theorem get?_eq_some_iff_mem {l : List (κ × ν)} (hl : (keys l).Nodup) (x : κ) (v : ν) :
    get? l x = some v ↔ (x, v) ∈ l := by
  refine ⟨mem_of_get?, fun h => ?_⟩
  cases hg : get? l x with
  | none => exact absurd (List.mem_map.2 ⟨(x, v), h, rfl⟩) ((get?_eq_none_iff l x).1 hg)
  | some w =>
    have := List.inj_on_of_nodup_map hl (mem_of_get? hg) h rfl
    rw [(Prod.mk.inj this).2]

/-- A list without two elements of one key holds at most one element under a key, and the search finds it. -/
theorem find?_key_eq_some_iff {α : Type} (key : α → κ) {l : List α} (hl : (l.map key).Nodup) (k : κ) (x : α) :
    l.find? (fun y => key y = k) = some x ↔ x ∈ l ∧ key x = k := by
  induction l with
  | nil => simp
  | cons y l ih =>
    obtain ⟨hy, hl⟩ := List.nodup_cons.1 hl
    by_cases hk : key y = k
    · rw [List.find?_cons_of_pos (by simpa using hk), Option.some.injEq, List.mem_cons]
      constructor
      · rintro rfl
        exact ⟨.inl rfl, hk⟩
      · rintro ⟨rfl | hx, hkx⟩
        · rfl
        · exact absurd (List.mem_map.2 ⟨x, hx, hkx.trans hk.symm⟩) hy
    · rw [List.find?_cons_of_neg (by simpa using hk), ih hl, List.mem_cons]
      refine and_congr_left fun hkx => ⟨.inr, fun h => h.resolve_left ?_⟩
      rintro rfl
      exact hk hkx

/-- A look-up among values that were computed key by key. -/
theorem get?_filterMap (f : κ → Option ν) (l : List κ) (x : κ) :
    get? (l.filterMap fun k => (f k).map (k, ·)) x = if x ∈ l then f x else none := by
  induction l with
  | nil => rfl
  | cons k l ih =>
    by_cases hk : k = x
    · subst hk
      cases hf : f k with
      | none => simp [hf, ih]
      | some v => simp [hf]
    · cases hf : f k with
      | none => simp [hf, ih, Ne.symm hk]
      | some v => simp [hf, ih, hk, Ne.symm hk]

/-! ## A pair more, a pair less -/

/-- A key that is new goes behind the others. -/
theorem put_of_get?_eq_none {l : List (κ × ν)} {x : κ} (h : get? l x = none) (w : ν) : put l x w = l ++ [(x, w)] := by
  induction l with
  | nil => rfl
  | cons p l ih =>
    obtain ⟨k, v⟩ := p
    rw [get?_cons] at h
    split at h
    next => cases h
    next hk => rw [put, if_neg hk, ih h, List.cons_append]

theorem remove_cons_self (l : List (κ × ν)) (x : κ) (w : ν) : remove ((x, w) :: l) x = remove l x :=
  List.filter_cons_of_neg (by simp)

theorem remove_cons_of_ne (l : List (κ × ν)) {k x : κ} (hk : k ≠ x) (w : ν) :
    remove ((k, w) :: l) x = (k, w) :: remove l x :=
  List.filter_cons_of_pos (by simpa using hk)

theorem remove_of_get?_eq_none {l : List (κ × ν)} {x : κ} (h : get? l x = none) : remove l x = l := by
  refine List.filter_eq_self.2 fun p hp => decide_eq_true ?_
  rintro rfl
  exact (get?_eq_none_iff l p.1).1 h (List.mem_map_of_mem hp)

theorem remove_put {l : List (κ × ν)} {x : κ} (h : get? l x = none) (w : ν) : remove (put l x w) x = l := by
  rw [put_of_get?_eq_none h, remove, List.filter_append, ← remove, remove_of_get?_eq_none h]
  simp

theorem remove_putSorted {l : List (Int64 × ν)} {x : Int64} (h : get? l x = none) (w : ν) :
    remove (putSorted l x w) x = l := by
  induction l with
  | nil => simp [putSorted, remove]
  | cons p l ih =>
    obtain ⟨k, v⟩ := p
    have hall := h
    rw [get?_cons] at h
    split at h
    next => cases h
    next hk =>
      rw [putSorted, if_neg hk]
      split
      · rw [remove_cons_self, remove_of_get?_eq_none hall]
      · rw [remove_cons_of_ne _ hk, ih h]

/-- Without double keys one pair goes, and counts no more. -/
theorem countP_remove {l : List (κ × ν)} (hl : (keys l).Nodup) {x : κ} {v : ν} (h : get? l x = some v) (p : κ → Bool) :
    (remove l x).countP (fun q => p q.1) + (if p x then 1 else 0) = l.countP fun q => p q.1 := by
  induction l with
  | nil => cases h
  | cons q l ih =>
    obtain ⟨k, w⟩ := q
    obtain ⟨hk, hl⟩ := List.nodup_cons.1 hl
    by_cases hx : k = x
    · subst hx
      rw [remove_cons_self, remove_of_get?_eq_none ((get?_eq_none_iff l k).2 hk), List.countP_cons]
    · rw [get?_cons, if_neg hx] at h
      rw [remove_cons_of_ne l hx, List.countP_cons, List.countP_cons, ← ih hl h]
      omega

theorem length_remove {l : List (κ × ν)} (hl : (keys l).Nodup) {x : κ} {v : ν} (h : get? l x = some v) :
    (remove l x).length + 1 = l.length := by
  simpa using countP_remove hl h fun _ => true

/-! ## No operation doubles a key -/

theorem mem_keys_put (l : List (κ × ν)) (x : κ) (w : ν) (y : κ) : y ∈ keys (put l x w) ↔ y = x ∨ y ∈ keys l := by
  rw [← not_iff_not, ← get?_eq_none_iff, get?_put, not_or, ← get?_eq_none_iff]
  by_cases h : x = y
  · simp [h]
  · simp [h, Ne.symm h]

theorem nodup_put {l : List (κ × ν)} (hl : (keys l).Nodup) (x : κ) (w : ν) : (keys (put l x w)).Nodup := by
  induction l with
  | nil => simp [keys, put]
  | cons p l ih =>
    obtain ⟨k, v⟩ := p
    obtain ⟨hk, hl⟩ := List.nodup_cons.1 hl
    by_cases hx : k = x
    · rw [put, if_pos hx]
      exact List.nodup_cons.2 ⟨hk, hl⟩
    · rw [put, if_neg hx]
      refine List.nodup_cons.2 ⟨fun hmem => ?_, ih hl⟩
      exact ((mem_keys_put l x w k).1 hmem).elim hx hk

theorem nodup_remove {l : List (κ × ν)} (hl : (keys l).Nodup) (x : κ) : (keys (remove l x)).Nodup :=
  List.Nodup.sublist (List.Sublist.map _ List.filter_sublist) hl

/-! ## Lists that ascend by key -/

/-- Every key is above the keys before it. -/
def Ascending (l : List (Int64 × ν)) : Prop := (keys l).Pairwise (· < ·)

theorem Ascending.nodup {l : List (Int64 × ν)} (hl : Ascending l) : (keys l).Nodup :=
  List.Pairwise.imp (fun h => Int64.ne_of_lt h) hl

theorem mem_keys_putSorted (l : List (Int64 × ν)) (x : Int64) (w : ν) (y : Int64) :
    y ∈ keys (putSorted l x w) ↔ y = x ∨ y ∈ keys l := by
  rw [← not_iff_not, ← get?_eq_none_iff, get?_putSorted, not_or, ← get?_eq_none_iff]
  by_cases h : x = y
  · simp [h]
  · simp [h, Ne.symm h]

theorem ascending_putSorted {l : List (Int64 × ν)} (hl : Ascending l) (x : Int64) (w : ν) :
    Ascending (putSorted l x w) := by
  induction l with
  | nil => exact List.pairwise_singleton _ _
  | cons p l ih =>
    obtain ⟨k, v⟩ := p
    obtain ⟨hk, hl'⟩ := List.pairwise_cons.1 hl
    rw [putSorted]
    split
    next hx =>
      subst hx
      exact hl
    next hx =>
      split
      next hlt =>
        refine List.pairwise_cons.2 ⟨fun y hy => ?_, hl⟩
        rcases List.mem_cons.1 hy with rfl | hy
        · exact hlt
        · exact Int64.lt_trans hlt (hk y hy)
      next hlt =>
        refine List.pairwise_cons.2 ⟨fun y hy => ?_, ih hl'⟩
        rcases (mem_keys_putSorted l x w y).1 hy with rfl | hy
        · exact Int64.lt_of_le_of_ne (Int64.not_lt.1 hlt) hx
        · exact hk y hy

theorem ascending_remove {l : List (Int64 × ν)} (hl : Ascending l) (x : Int64) : Ascending (remove l x) :=
  List.Pairwise.sublist (List.Sublist.map _ List.filter_sublist) hl

end RowIdentity.Assoc
