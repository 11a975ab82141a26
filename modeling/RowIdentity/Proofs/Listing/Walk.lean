import RowIdentity.Proofs.Listing.Paging

/-!
# Walking through the pages of a list

Showing a row may give it a public id, which may move it within an order by public ids before the next page is cut
out. The rows in front of the cut stay the same as long as no row is moved across it.

* `Memory.Settled` — an order in which the rows in front of a cut stay there while they are shown;
* `Shows.take_listed_perm` — **showing them leaves the same rows in front of the cut**;
* `World.exists_listPages` — by induction on the pages, the rows shown so far are those in front of the cut;
* `walk_shows_each_row_once` — **the pages of a list show every stored row exactly once**, where its order is settled;
* `walk_incomplete` — downwards by public ids it need not be: a row is shown twice while another is lost.
-/

namespace RowIdentity

variable {registry : Registry} {moments : Nat → Moment} {m m' m₀ : Memory} {w : World} {model : Model}
  {order : Option SortKey} {scheme : IdScheme} {params : ListParams}

/-! ## Rows in front of a cut -/

/-- Nothing is behind the cut. -/
theorem take_perm_of_length_le {α : Type} {l l' : List α} {k : Nat} (hperm : l'.Perm l) (hk : l.length ≤ k) :
    (l'.take k).Perm (l.take k) := by
  rw [List.take_of_length_le hk, List.take_of_length_le (hperm.length_eq ▸ hk)]
  exact hperm

/-- If the front of a rearranged list is told by a property, and what stood in front of the cut is what has the
property, the rearranged list has the same in front of the cut. -/
theorem take_perm_of_front {α : Type} {p : α → Bool} {l l' : List α} (k : Nat) (hperm : l'.Perm l)
    (hfront : l' = l'.filter p ++ l'.filter fun a => !p a) (hin : ∀ a ∈ l.take k, p a = true)
    (hout : ∀ a ∈ l.drop k, p a = false) : (l'.take k).Perm (l.take k) := by
  have hfilter : l.filter p = l.take k := by
    conv_lhs => rw [← List.take_append_drop k l]
    rw [List.filter_append, List.filter_eq_self.2 hin, List.filter_eq_nil_iff.2, List.append_nil]
    exact fun a ha => by simp [hout a ha]
  have hfirst : (l'.filter p).Perm (l.take k) := hfilter ▸ hperm.filter p
  rcases Nat.le_total k l.length with hk | hk
  · have hlen : (l'.filter p).length = k := by rw [hfirst.length_eq, List.length_take, Nat.min_eq_left hk]
    rw [hfront, List.take_left' hlen]
    exact hfirst
  · exact take_perm_of_length_le hperm hk

namespace Memory

/-- Downwards by public ids, rows without one come first, and showing them moves them away. An order is settled if it
is not this one, or all rows have their ids, or they fit on one page. -/
def Settled (m : Memory) (model : Model) (order : Option SortKey) (size : Nat) : Prop :=
  order = some ⟨.publicId, .desc⟩ →
    (∀ r ∈ m.stored model.entityType, (m.mappings.idOf? model.entityType r.pk).isSome = true) ∨
      (m.stored model.entityType).length ≤ size

/-- Where no entries are made for the rows shown, the list is what it was. -/
theorem Shows.listed_eq {rows : List Row} (h : Shows scheme rows m m')
    (hold : scheme = .publicId → ∀ r ∈ rows, (m.mappings.idOf? r.entityType r.pk).isSome = true) :
    m'.listed model scheme order = m.listed model scheme order := by
  have hid : m'.shownId model scheme = m.shownId model scheme := by
    funext r
    simp only [shownId, h.idOf?_eq hold]
  rw [Memory.listed_eq, Memory.listed_eq, hid, h.stored]

/-- Upwards by public id, a row without one that is shown has all rows with one before it. -/
theorem unmapped_of_mem_drop {k : Nat} {r s : Row}
    (hr : r ∈ (m.listed model scheme (some ⟨.publicId, .asc⟩)).take k)
    (hs : s ∈ (m.listed model scheme (some ⟨.publicId, .asc⟩)).drop k) (hnone : m.shownId model scheme r = none) :
    m.shownId model scheme s = none := by
  have hpair := pairwise_sortRows (m.shownId model scheme) (m.stored model.entityType)
  rw [← listed_eq, ← List.take_append_drop k (m.listed _ _ _), List.pairwise_append] at hpair
  have hle := hpair.2.2 r hr s hs
  rw [hnone] at hle
  cases hs' : m.shownId model scheme s with
  | none => rfl
  | some u =>
    rw [hs'] at hle
    cases hle

/-- **Showing rows in front of the cut leaves the same rows there**, where the order is settled. -/
theorem Shows.take_listed_perm {rows : List Row} {k size : Nat} (hm : m.Regular) (h : Shows scheme rows m m')
    (hvalid : readsIds order = true → scheme = .publicId) (hsettled : m.Settled model order size) (hk : size ≤ k)
    (hrows : ∀ r ∈ rows, r ∈ (m.listed model scheme order).take k)
    (hmapped : scheme = .publicId → ∀ r ∈ (m.listed model scheme order).take k,
      (m'.mappings.idOf? model.entityType r.pk).isSome = true) :
    ((m'.listed model scheme order).take k).Perm ((m.listed model scheme order).take k) := by
  have hstored : ∀ r ∈ m.listed model scheme order, r ∈ m.stored model.entityType :=
    fun r => (m.listed_perm model scheme order).mem_iff.1
  have htype : ∀ r ∈ rows, r.entityType = model.entityType := fun r hr =>
    (hm.filed _ _ _ ((hm.mem_stored_iff _ _).1 (hstored r (List.mem_of_mem_take (hrows r hr))))).1
  have hperm : (m'.listed model scheme order).Perm (m.listed model scheme order) :=
    (m'.listed_perm model scheme order).trans (h.stored _ ▸ (m.listed_perm model scheme order).symm)
  by_cases hreads : readsIds order = true
  swap
  · rw [m'.listed_eq, m.listed_eq, h.stored, sortRows_congr (Bool.eq_false_iff.2 hreads)]
  by_cases hold : ∀ r ∈ rows, (m.mappings.idOf? model.entityType r.pk).isSome = true
  · rw [h.listed_eq fun _ r hr => htype r hr ▸ hold r hr]
  obtain ⟨r, hr, hnone⟩ : ∃ r ∈ rows, m.mappings.idOf? model.entityType r.pk = none := by
    simpa using hold
  have hscheme := hvalid hreads
  subst hscheme
  match order, hreads with
  | some ⟨.publicId, .desc⟩, _ =>
    rcases hsettled rfl with hall | hlen
    · have := hall r (hstored r (List.mem_of_mem_take (hrows r hr)))
      rw [hnone] at this
      cases this
    · refine take_perm_of_length_le hperm ?_
      rw [m.length_listed]
      exact Nat.le_trans hlen hk
  | some ⟨.publicId, .asc⟩, _ =>
    have hid : ∀ (m : Memory) s, m.shownId model .publicId s = m.mappings.idOf? model.entityType s.pk :=
      fun _ _ => rfl
    have hfront := sortRows_publicId_asc (m'.shownId model .publicId) (m'.stored model.entityType)
    rw [← Memory.listed_eq] at hfront
    refine take_perm_of_front k hperm hfront (hmapped rfl) fun s hs => ?_
    -- what is behind the cut had no id, and was not shown
    rw [hid, Option.isSome_eq_false_iff, Option.isNone_iff_eq_none, ← Option.not_isSome_iff_eq_none, h.mapped]
    rintro (hmapped | ⟨-, s', hs', -, hpk⟩)
    · rw [← hid, unmapped_of_mem_drop (hrows r hr) hs hnone] at hmapped
      cases hmapped
    · have hnodup : ((m.listed model .publicId (some ⟨.publicId, .asc⟩)).map (·.pk)).Nodup :=
        ((m.listed_perm _ _ _).map _).nodup_iff.2 (hm.nodup_stored _)
      rw [← List.take_append_drop k (m.listed _ _ _), List.map_append] at hnodup
      exact (List.nodup_append.1 hnodup).2.2 _ (List.mem_map_of_mem (hrows s' hs')) _ (List.mem_map_of_mem hs) hpk

/-! ## The invariant of a walk -/

theorem Shows.settled {rows : List Row} {size : Nat} (h : Shows scheme rows m m') (hm : m.Settled model order size) :
    m'.Settled model order size := by
  intro hdesc
  rw [h.stored]
  refine (hm hdesc).imp_left fun hall r hr => ?_
  obtain ⟨u, hu⟩ := Option.isSome_iff_exists.1 (hall r hr)
  rw [h.kept _ _ u hu]
  rfl

/-- The rows shown so far are those in front of a cut. -/
structure Walked (model : Model) (scheme : IdScheme) (order : Option SortKey) (m₀ m : Memory) (shown : List Row)
    (cut : Nat) : Prop where
  shows : Shows scheme shown m₀ m
  front : shown.Perm ((m.listed model scheme order).take cut)

theorem Walked.start (hm : m.Regular) (model : Model) (scheme : IdScheme) (order : Option SortKey) :
    Walked model scheme order m m [] 0 :=
  ⟨.nil hm scheme, .refl _⟩

/-- **One page more**: the rows of the page go to the front. -/
theorem Walked.page {shown : List Row} {cut size : Nat} (h : Walked model scheme order m₀ m shown cut)
    (hvalid : readsIds order = true → scheme = .publicId) (hsettled : m.Settled model order size)
    (hshows : Shows scheme (((m.listed model scheme order).drop cut).take size) m m') :
    Walked model scheme order m₀ m' (shown ++ ((m.listed model scheme order).drop cut).take size) (cut + size) where
  shows := h.shows.append hshows
  front := by
    have hfront : (shown ++ ((m.listed model scheme order).drop cut).take size).Perm
        ((m.listed model scheme order).take (cut + size)) := by
      rw [List.take_add]
      exact h.front.append_right _
    refine hfront.trans (hshows.take_listed_perm h.shows.regular hvalid hsettled (Nat.le_add_left _ _) ?_ ?_).symm
    · exact fun r hr => hfront.mem_iff.1 (List.mem_append_right _ hr)
    · intro hscheme r hr
      have hstored := (m.listed_perm model scheme order).mem_iff.1 (List.mem_of_mem_take hr)
      have hty := (h.shows.regular.filed _ _ _ ((h.shows.regular.mem_stored_iff _ _).1 hstored)).1
      exact ((h.shows.append hshows).mapped _ _).2 (.inr ⟨hscheme, r, hfront.mem_iff.2 hr, hty, rfl⟩)

end Memory

/-! ## The walk -/

/-- The pages of a list, from the first one on. -/
def listPages (registry : Registry) (plural : String) (params : ListParams) (n : Nat) : Action (List RowPage) :=
  (List.range' 1 n).mapM fun page => listRows registry plural { params with page }

/-- The rows of some pages. -/
def shownRows (pages : List RowPage) : List Row := (pages.flatMap RowPage.rows).map (·.row)

theorem shownRows_cons (p : RowPage) (pages : List RowPage) :
    shownRows (p :: pages) = p.rows.map (·.row) ++ shownRows pages := by
  simp [shownRows]

theorem ListParams.max_pageSize (params : ListParams) : max params.pageSize 1 = params.pageSize := by
  unfold pageSize
  omega

namespace World

/-- **The rows shown by some pages in a row are those in front of the cut.** By induction on the pages. -/
theorem exists_listPages (hi : registry.Indexed) (hmodel : registry.get? model.entityType = some model)
    (hp : params.publicId = none) {n cut : Nat} {shown : List Row} {m₀ : Memory}
    (hvalid : readsIds params.sortKey = true → model.scheme w.flag = .publicId)
    (hsettled : w.memory.Settled model params.sortKey params.pageSize)
    (hwalked : Memory.Walked model (model.scheme w.flag) params.sortKey m₀ w.memory shown (cut * params.pageSize))
    (hsupplied : RunSupplied registry moments
      ((List.range' (cut + 1) n).mapM fun page => listRows registry model.plural { params with page }) w) :
    ∃ pages w', run registry moments
        ((List.range' (cut + 1) n).mapM fun page => listRows registry model.plural { params with page }) w =
          (.ok pages, w') ∧
      Memory.Walked model (model.scheme w.flag) params.sortKey m₀ w'.memory (shown ++ shownRows pages)
        ((cut + n) * params.pageSize) ∧
      ∀ p ∈ pages, p.info.totalPages =
        (PageInfo.of 1 params.pageSize (w.memory.stored model.entityType).length).totalPages := by
  induction n generalizing cut shown w with
  | zero => exact ⟨[], w, rfl, by simpa [shownRows] using hwalked, nofun⟩
  | succ n ih =>
    rw [List.range'_succ, List.mapM_cons] at hsupplied ⊢
    obtain ⟨hhead, hrest⟩ := runSupplied_bind.1 hsupplied
    have hp' : ({ params with page := cut + 1 } : ListParams).publicId = none := hp
    obtain ⟨page, w₁, hpage, hrows, hinfo, hshows, hflags⟩ :=
      exists_listRows hi hmodel hwalked.shows.regular hp' hvalid hhead
    have htail := (runSupplied_bind.1 (hrest _ _ hpage)).1
    have hflag : w₁.flag = w.flag := congrArg (RuntimeFlags.isOn · publicIdFlag) hflags
    have hnumber : ({ params with page := cut + 1 } : ListParams).pageNumber - 1 = cut := by
      simp [ListParams.pageNumber]
    rw [hnumber] at hrows
    have hstep := hwalked.page hvalid hsettled (hrows ▸ hshows)
    rw [← Nat.succ_mul] at hstep
    have hnext := @ih w₁ (cut + 1) _ (hflag ▸ hvalid) (hshows.settled hsettled) (hflag ▸ hstep) htail
    obtain ⟨pages, w', hpages, hwalked', hinfos⟩ := hnext
    refine ⟨page :: pages, w', ?_, ?_, ?_⟩
    · simp only [run_bind, hpage, hpages, run_pure]
    · rw [shownRows_cons, hrows, ← List.append_assoc, ← Nat.add_assoc, Nat.add_right_comm, ← hflag]
      exact hwalked'
    · intro p hp
      rcases List.mem_cons.1 hp with rfl | hp
      · rw [hinfo]
        rfl
      · rw [hinfos p hp, hshows.stored]

end World

/-- **Walking through the pages of a list shows every stored row exactly once**, whatever ids are made on the way, if
the list may be sorted as it is asked for and its order is settled. If it may not, every page is refused. -/
theorem walk_shows_each_row_once (hreg : registry.Built) (hw : Memory.Reachable registry w.memory)
    (hmodel : registry.get? model.entityType = some model) (hp : params.publicId = none) {n : Nat}
    (hn : n = (PageInfo.of 1 params.pageSize (w.memory.table model.entityType).length).totalPages) :
    ((readsIds params.sortKey = true → model.scheme w.flag = .publicId) →
      w.memory.Settled model params.sortKey params.pageSize →
      World.RunSupplied registry moments (listPages registry model.plural params n) w →
        ∃ pages w', World.run registry moments (listPages registry model.plural params n) w = (.ok pages, w') ∧
          (∀ p ∈ pages, p.info.totalPages = n) ∧ ((shownRows pages).map (·.pk)).Nodup ∧
          (∀ r, r ∈ shownRows pages ↔ w.memory.row? model.entityType r.pk = some r) ∧
          w'.memory.tables = w.memory.tables) ∧
      (readsIds params.sortKey = true → model.scheme w.flag ≠ .publicId → ∀ page, ∃ reason,
        World.run registry moments (listRows registry model.plural { params with page }) w =
          (.error (.invalidFormat (params.sort.getD "") reason), w.tick)) := by
  have hi := hreg.indexed
  have hm := hw.regular
  have htotal : (w.memory.stored model.entityType).length = (w.memory.table model.entityType).length :=
    List.length_map _
  constructor
  · intro hvalid hsettled hsupplied
    have hstart := Memory.Walked.start hm model (model.scheme w.flag) params.sortKey
    rw [← Nat.zero_mul params.pageSize] at hstart
    obtain ⟨pages, w', hpages, hwalked, hinfos⟩ :=
      World.exists_listPages hi hmodel hp hvalid hsettled hstart hsupplied
    rw [List.nil_append, Nat.zero_add] at hwalked
    -- behind the last page there is nothing
    have hall : (shownRows pages).Perm (w.memory.stored model.entityType) := by
      refine hwalked.front.trans ?_
      rw [List.take_of_length_le]
      · exact hwalked.shows.stored _ ▸ Memory.listed_perm _ _ _ _
      · rw [Memory.length_listed, hwalked.shows.stored, htotal, hn]
        have henough := PageInfo.le_totalPages_mul 1 params.pageSize (w.memory.table model.entityType).length
        rwa [params.max_pageSize] at henough
    refine ⟨pages, w', hpages, fun p hp => ?_, ?_, fun r => ?_, hwalked.shows.tables⟩
    · rw [hinfos p hp, htotal, hn]
    · exact ((hall.map _).nodup_iff).2 (hm.nodup_stored _)
    · rw [hall.mem_iff, hm.mem_stored_iff]
  · intro hreads hscheme page
    have hp' : ({ params with page } : ListParams).publicId = none := hp
    exact World.run_listRows_refused hi hmodel hp' hreads hscheme

/-! ## Two widgets without entries -/

/-- One row to a page. -/
def ListParams.single (sort : String) : ListParams := ⟨1, 1, some sort, none⟩

/-- Upwards by public ids, both widgets are shown. -/
theorem walk_shows_each_row_once_widgets :
    ∃ pages w', World.run .widgets .counted (listPages .widgets "widgets" (.single "public_id") 2) .loaded =
        (.ok pages, w') ∧ ((shownRows pages).map (·.pk)).Nodup ∧
      ∀ r, r ∈ shownRows pages ↔ World.loaded.memory.row? "shop.widget" r.pk = some r := by
  have hmodel : Registry.widgets.get? Registry.widget.entityType = some Registry.widget := rfl
  have hparams : (ListParams.single "public_id").publicId = none := rfl
  have hsort : (ListParams.single "public_id").sortKey = some ⟨.publicId, .asc⟩ := by decide +kernel
  have hsettled : World.loaded.memory.Settled Registry.widget (ListParams.single "public_id").sortKey 1 := by
    rw [hsort]
    exact nofun
  have hsupplied : World.RunSupplied .widgets .counted (listPages .widgets "widgets" (.single "public_id") 2)
      .loaded := by
    refine Program.throughout_of_all ?_
    delta World.answer Memory.answer Memory.fetch Memory.countRows Memory.select
    rw [Memory.sort_eq_sortByInsertion]
    decide +kernel
  obtain ⟨pages, w', hpages, -, hnodup, hrows, -⟩ :=
    (walk_shows_each_row_once Registry.built_widgets Memory.reachable_loaded hmodel hparams rfl).1 (fun _ => rfl)
      hsettled hsupplied
  exact ⟨pages, w', hpages, hnodup, hrows⟩

/-- **Not every walk shows every row.** Downwards by public ids the second widget is shown on both pages and the first
one on none: with its new id the second has moved behind the first, which has none. And with the flag off, no page can
be sorted by public ids at all. -/
theorem walk_incomplete :
    (World.run .widgets .counted (listPages .widgets "widgets" (.single "public_id:desc") 2) .loaded).1.map
        (fun pages => (pages.map (·.info.totalPages), (shownRows pages).map (·.pk))) = .ok ([2, 2], [2, 2]) ∧
      (World.loaded.memory.stored "shop.widget").map (·.pk) = [1, 2] ∧
      (World.run .widgets .counted (listPages .widgets "widgets" (.single "public_id") 2)
        { World.loaded with flags := .of false }).1.map shownRows = .error (.invalidFormat "public_id"
          "query on shop.widget references public_id without the public id annotation") := by
  refine ⟨?_, rfl, ?_⟩
  · delta World.run World.answer Memory.answer Memory.fetch Memory.countRows Memory.select
    rw [Memory.sort_eq_sortByInsertion]
    decide +kernel
  · rfl

end RowIdentity
