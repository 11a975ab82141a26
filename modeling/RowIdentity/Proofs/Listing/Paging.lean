import Mathlib.Algebra.Order.Floor.Div
import RowIdentity.Proofs.Listing.Page

/-!
# Pages in exact arithmetic

Sizes are 64-bit words. Where a page begins is a product that may be beyond them: a list takes such a page for one past
the end, and `PageInfo.of` holds the product, and the sum after it, at the largest size. Neither differs from exact
arithmetic as long as the rows themselves can be counted.

* `PageInfo.lt_totalPages_iff` — a further page starts within the rows;
* `PageInfo.Exact`, `exact_of` — **what is told of a page is what exact arithmetic says**;
* `take_mul_eq_flatten`, `Memory.fetch_pages` — **the pages of a query, joined, are the query**;
* `paging_exact` — and a list shows the rows that are left for its page.
-/

namespace RowIdentity

variable {q : RowQuery} {total : Nat}

/-! ## Where a page stands -/

/-- Held at the largest size or not, the end of a page is compared with a count as it is. -/
theorem addSizes_mulSizes_lt_iff (htotal : total ≤ maxSize) (a b c : Nat) :
    addSizes (mulSizes a b) c < total ↔ a * b + c < total := by
  unfold addSizes mulSizes
  omega

namespace PageInfo

theorem totalPages_of (page limit total : Nat) : (of page limit total).totalPages = total ⌈/⌉ max limit 1 := by
  have hlimit : 0 < max limit 1 := by omega
  refine eq_of_forall_ge_iff fun n => ?_
  rw [ceilDiv_le_iff_le_mul hlimit, Nat.mul_comm]
  simp only [of]
  split
  next hzero => simp [hzero]
  next =>
    split
    next hmod => exact Nat.div_le_iff_le_mul_of_dvd hlimit.ne' (Nat.dvd_of_mod_eq_zero hmod)
    next hmod =>
      have hne : total ≠ n * max limit 1 := fun heq => hmod (heq ▸ Nat.mul_mod_left _ _)
      rw [Nat.succ_le_iff, Nat.div_lt_iff_lt_mul hlimit]
      omega

/-- Behind `n` pages there is another one as long as they do not hold all rows. -/
theorem lt_totalPages_iff (page limit total n : Nat) :
    n < (of page limit total).totalPages ↔ n * max limit 1 < total := by
  have hlimit : 0 < max limit 1 := by omega
  rw [totalPages_of, ← Nat.not_le, ceilDiv_le_iff_le_mul hlimit, Nat.not_le, Nat.mul_comm]

/-- The pages are enough for all rows. -/
theorem le_totalPages_mul (page limit total : Nat) : total ≤ (of page limit total).totalPages * max limit 1 :=
  Nat.not_lt.1 fun hlt => Nat.lt_irrefl _ ((lt_totalPages_iff page limit total _).2 hlt)

/-- What is told of a page, by exact arithmetic. -/
structure Exact (info : PageInfo) (page limit total : Nat) : Prop where
  totalPages : info.totalPages = total ⌈/⌉ limit
  hasNext : info.hasNext = true ↔ page < info.totalPages
  hasPrev : info.hasPrev = true ↔ 1 < page
  totalPages_le : info.totalPages ≤ total

/-- **What is told of a page is exact**, for every count of rows that fits a word. -/
theorem exact_of (page limit : Nat) (htotal : total ≤ maxSize) :
    (of page limit total).Exact (max page 1) (max limit 1) total where
  totalPages := totalPages_of page limit total
  hasNext := by
    have hpage : 0 < max page 1 := by omega
    have hend : (max page 1 - 1) * max limit 1 + max limit 1 = max page 1 * max limit 1 := by
      rw [← Nat.succ_mul, Nat.succ_eq_add_one, Nat.sub_add_cancel hpage]
    rw [lt_totalPages_iff]
    simp only [of, decide_eq_true_eq]
    rw [addSizes_mulSizes_lt_iff htotal, hend]
  hasPrev := by simp only [of, decide_eq_true_eq]
  totalPages_le := by
    refine Nat.not_lt.1 fun hlt => ?_
    rw [lt_totalPages_iff] at hlt
    exact absurd (Nat.le_mul_of_pos_right total (by omega)) (Nat.not_le.2 hlt)

end PageInfo

/-! ## The pages of a query -/

/-- The front of a list, page by page. -/
theorem take_mul_eq_flatten {α : Type} (l : List α) (size n : Nat) :
    l.take (n * size) = ((List.range' 1 n).map fun p => (l.drop ((p - 1) * size)).take size).flatten := by
  induction n with
  | zero => simp
  | succ n ih => simp [Nat.succ_mul, List.take_add, ih, List.range'_concat]

/-- **The pages of a query, joined, are what it fetches without pages.** -/
theorem Memory.fetch_pages (m : Memory) (hq : q.isValid = true) (hoffset : q.offset = 0) (hlimit : q.limit = none)
    (page limit : Nat) :
    ((List.range' 1 (PageInfo.of page limit (m.select q).length).totalPages).mapM fun p =>
        m.fetch { q with offset := (p - 1) * max limit 1, limit := some (max limit 1) }).map List.flatten =
      m.fetch q := by
  have hpages : (fun p => m.fetch { q with offset := (p - 1) * max limit 1, limit := some (max limit 1) }) =
      fun p => pure (((m.select q).drop ((p - 1) * max limit 1)).take (max limit 1)) := by
    funext p
    exact m.fetch_eq hq
  rw [hpages, List.mapM_pure, m.fetch_eq_select hq hoffset hlimit]
  change Except.ok (List.flatten _) = _
  rw [← take_mul_eq_flatten, List.take_of_length_le (PageInfo.le_totalPages_mul _ _ _)]

/-! ## The pages of a list -/

/-- **Paging is exact**, for pages and limits of any size. What is told of a page is what exact arithmetic says. The
pages of a valid query, joined, are what the query fetches. And from every reachable state a list whose query is
accepted shows the rows that the query fetches for its page: a full page, the rows that are left, or none where the
page starts past the end, be it beyond 64 bits. -/
theorem paging_exact :
    (∀ page limit total, total ≤ maxSize →
      (PageInfo.of page limit total).Exact (max page 1) (max limit 1) total) ∧
    (∀ (m : Memory) q, q.isValid = true → q.offset = 0 → q.limit = none → ∃ total, m.countRows q = .ok total ∧
      ∀ page limit, ((List.range' 1 (PageInfo.of page limit total).totalPages).mapM fun p =>
        m.fetch { q with offset := (p - 1) * max limit 1, limit := some (max limit 1) }).map List.flatten =
          m.fetch q) ∧
    ∀ (registry : Registry) moments w model params q, registry.Built → Memory.Reachable registry w.memory →
      registry.get? model.entityType = some model → params.query model (model.scheme w.flag) = .ok q →
      World.RunSupplied registry moments (listRows registry model.plural params) w →
        ∃ total found page w', w.memory.countRows q = .ok total ∧
          w.memory.fetch { q with offset := (params.pageNumber - 1) * params.pageSize, limit := some params.pageSize } =
            .ok found ∧
          World.run registry moments (listRows registry model.plural params) w = (.ok page, w') ∧
          page.rows.map (·.row) = found.map (·.row) ∧
          page.rows.length = (if (params.pageNumber - 1) * params.pageSize < total then
            min params.pageSize (total - (params.pageNumber - 1) * params.pageSize) else 0) ∧
          page.info = .of params.pageNumber params.pageSize total := by
  refine ⟨fun page limit total => PageInfo.exact_of page limit, fun m q hq hoffset hlimit => ?_, ?_⟩
  · exact ⟨_, m.countRows_eq hq, m.fetch_pages hq hoffset hlimit⟩
  · intro registry moments w model params q hreg hw hmodel hq hsupplied
    have hvalid := (ListParams.query_ok hq).1
    obtain ⟨page, w', h⟩ := World.exists_listRows_of_query hreg.indexed hmodel hw.regular hq hsupplied
    obtain ⟨_, hq', hrows, hinfo, -⟩ := World.listRows_ok hreg.indexed hmodel hw.regular h
    obtain rfl := Except.ok.inj (hq.symm.trans hq')
    refine ⟨_, _, page, w', w.memory.countRows_eq hvalid, w.memory.fetch_eq hvalid, h, hrows, ?_, hinfo⟩
    have hlength := congrArg List.length hrows
    rw [List.length_map, List.length_map, ListParams.cut, List.length_take, List.length_drop] at hlength
    rw [hlength]
    split
    · rfl
    · omega

/-- The last of as many pages as a word counts; two widgets on two pages; and a page that starts beyond 64 bits. -/
theorem paging_exact_widgets :
    (PageInfo.of maxSize 1 maxSize).hasNext = false ∧
    ([1, 2].mapM fun p => World.loaded.memory.fetch { RowQuery.all "shop.widget" with offset := p - 1, limit := some 1 }
      ).map List.flatten = World.loaded.memory.fetch (.all "shop.widget") ∧
    (∃ page w', World.run .widgets .counted (listRows .widgets "widgets" ⟨2, 1, none, none⟩) .loaded = (.ok page, w') ∧
      page.rows.length = 1) ∧
    maxSize < (maxSize - 1) * 100 ∧
    ∃ page w', World.run .widgets .counted (listRows .widgets "widgets" ⟨maxSize, 100, none, none⟩) .loaded =
      (.ok page, w') ∧ page.rows.length = 0 := by
  obtain ⟨hinfo, hpages, hlist⟩ := paging_exact
  refine ⟨?_, ?_, ?_, by decide, ?_⟩
  · have hexact := hinfo maxSize 1 maxSize (Nat.le_refl _)
    rw [← Bool.not_eq_true, hexact.hasNext]
    exact Nat.not_lt.2 hexact.totalPages_le
  · obtain ⟨_, htotal, hjoined⟩ := hpages World.loaded.memory (.all "shop.widget") rfl rfl rfl
    cases htotal
    exact hjoined 1 1
  · have hsupplied : World.RunSupplied .widgets .counted (listRows .widgets "widgets" ⟨2, 1, none, none⟩) .loaded :=
      Program.throughout_of_all (by decide +kernel)
    obtain ⟨_, _, page, w', htotal, -, hrun, -, hlength, -⟩ :=
      hlist .widgets .counted .loaded Registry.widget ⟨2, 1, none, none⟩ _ Registry.built_widgets
        Memory.reachable_loaded rfl rfl hsupplied
    cases htotal
    exact ⟨page, w', hrun, hlength⟩
  · have hsupplied : World.RunSupplied .widgets .counted (listRows .widgets "widgets" ⟨maxSize, 100, none, none⟩)
        .loaded := Program.throughout_of_all (by decide +kernel)
    obtain ⟨_, _, page, w', htotal, -, hrun, -, hlength, -⟩ :=
      hlist .widgets .counted .loaded Registry.widget ⟨maxSize, 100, none, none⟩ _ Registry.built_widgets
        Memory.reachable_loaded rfl rfl hsupplied
    cases htotal
    exact ⟨page, w', hrun, hlength⟩

end RowIdentity
