import RowIdentity.Proofs.Listing.Order
import RowIdentity.Proofs.Resolution.RowId
import RowIdentity.Proofs.Trace

/-!
# One page of a list

* `ListParams.query`, `World.run_listQuery`, `World.run_pageRows` — the query of a list, and the rows of a page;
* `supplied` — a call that has to draw an id can draw an unused one;
* `Memory.Shows` — what showing some rows leaves behind: under the Public-ID scheme they have entries, and nothing
  else has changed;
* `World.listRows_ok` — **a page shows its part of the list, each row under the id that it has afterwards**, and
  nothing else happens;
* `World.exists_listRows_of_query`, `exists_listRows` — a list that is not refused has its page;
* `World.run_listRows_refused` — sorted by public ids where none are shown, every page is refused.
-/

namespace RowIdentity

variable {registry : Registry} {moments : Nat → Moment} {m m' m'' : Memory} {w w' : World} {model : Model}
  {scheme : IdScheme} {params : ListParams} {q : RowQuery} {id : ExternalId} {r : Row} {a : AnnotatedRow}
  {found : List AnnotatedRow}

/-! ## The query and its rows -/

namespace ListParams

/-- The public id that a client asks for, if any. -/
def requestedId (params : ListParams) : IdResult (Option Uuid) :=
  match params.publicId with
  | some raw => some <$> parsePublicId raw
  | none => pure none

/-- The query that parameters come to under a scheme, or the error they meet. -/
def query (params : ListParams) (model : Model) (scheme : IdScheme) : IdResult RowQuery := do
  let q := pageQueryFor model scheme params.sortKey (← params.requestedId)
  if q.isValid then return q
  else throw (.invalidFormat ((params.publicId <|> params.sort).getD "") q.complaint)

theorem query_ok (h : params.query model scheme = .ok q) :
    q.isValid = true ∧ ∃ publicId, params.requestedId = .ok publicId ∧
      q = pageQueryFor model scheme params.sortKey publicId := by
  unfold query at h
  cases hid : params.requestedId with
  | error e =>
    rw [hid] at h
    cases h
  | ok publicId =>
    rw [hid] at h
    change (if _ then Except.ok _ else Except.error _) = _ at h
    split at h
    next hvalid =>
      obtain rfl := Except.ok.inj h
      exact ⟨hvalid, publicId, rfl, rfl⟩
    next => cases h

/-- Where no public id is asked for, the order alone can be refused. -/
theorem query_of_none (hp : params.publicId = none) (model : Model) (scheme : IdScheme) :
    params.query model scheme =
      if (pageQuery model scheme params.sortKey).isValid then .ok (pageQuery model scheme params.sortKey)
      else .error (.invalidFormat (params.sort.getD "") (pageQuery model scheme params.sortKey).complaint) := by
  simp only [query, requestedId, hp, pure_bind, pageQueryFor_none]
  rfl

end ListParams

namespace World

theorem run_listQuery (registry : Registry) (moments : Nat → Moment) (model : Model) (params : ListParams) (w : World) :
    run registry moments (listQuery model params) w = (params.query model (model.scheme w.flag), w.tick) := by
  have hannotate : run registry moments (annotateQuery model (.all model.entityType)) w =
      (.ok ((model.scheme w.flag).annotate (.all model.entityType)), w.tick) := rfl
  have hq (publicId : Option Uuid) :
      { (model.scheme w.flag).annotate (.all model.entityType) with publicId, order := params.sortKey } =
        pageQueryFor model (model.scheme w.flag) params.sortKey publicId := by
    cases model.scheme w.flag <;> rfl
  unfold listQuery ListParams.query ListParams.requestedId
  rw [run_bind, hannotate]
  cases params.publicId with
  | none =>
    simp only [hq, pure_bind]
    split <;> rfl
  | some raw =>
    simp only [run_bind, run_map_result, hq]
    cases parsePublicId raw with
    | error e => rfl
    | ok u =>
      change run registry moments (if _ then _ else _) _ = (if _ then _ else _, _)
      split <;> rfl

/-- Where the rows are no more than 64 bits can count, a product beyond 64 bits is past the end as well. -/
theorem pageRows_eq (q : RowQuery) (page limit : Nat) {total : Nat} (htotal : total ≤ UInt64.size) :
    pageRows q page limit total =
      if (page - 1) * limit < total then
        liftM (Store.fetch { q with offset := (page - 1) * limit, limit := some limit })
      else pure [] := by
  have hmax : maxSize + 1 = UInt64.size := rfl
  unfold pageRows mulSizes?
  by_cases hfits : (page - 1) * limit ≤ maxSize
  · rw [if_pos hfits]
  · rw [if_neg hfits, if_neg (by omega)]

/-- The rows of a page, cut out of the list. -/
theorem run_pageRows (registry : Registry) (moments : Nat → Moment) (hm : w.memory.Regular) (hq : q.isValid = true)
    (page limit : Nat) :
    ∃ n, run registry moments (pageRows q page limit (w.memory.select q).length) w =
      (.ok (((w.memory.select q).drop ((page - 1) * limit)).take limit), { w with calls := n }) := by
  rw [pageRows_eq q page limit (hm.length_select_le q)]
  by_cases hlt : (page - 1) * limit < (w.memory.select q).length
  · refine ⟨w.calls + 1, ?_⟩
    have hfetch : w.memory.fetch { q with offset := (page - 1) * limit, limit := some limit } =
        .ok (((w.memory.select q).drop ((page - 1) * limit)).take limit) := w.memory.fetch_eq hq
    rw [if_pos hlt]
    change ((w.memory.fetch _).mapError Fault.toError, _) = _
    rw [hfetch]
    rfl
  · refine ⟨w.calls, ?_⟩
    rw [if_neg hlt, List.drop_eq_nil_of_le (Nat.not_lt.1 hlt), List.take_nil]
    rfl

theorem run_countRows (registry : Registry) (moments : Nat → Moment) (hq : q.isValid = true) (w : World) :
    run registry moments (liftM (Store.countRows q)) w = (.ok (w.memory.select q).length, w.tick) := by
  change ((w.memory.countRows q).mapError Fault.toError, _) = _
  rw [w.memory.countRows_eq hq]
  rfl

end World

/-! ## Entries for the rows shown -/

/-- A call that has to make an entry can draw an unused id. -/
def supplied (moments : Nat → Moment) : BackendCall → World → Bool
  | .entryOrNew ty pk, w => (w.memory.mappings.idOf? ty pk).isSome ||
      (moments w.calls).draws.any fun u => (w.memory.mappings.entryById? u).isNone
  | _, _ => true

/-- From one state to another in which the given rows have been shown: under the Public-ID scheme they have entries,
all entries there were are there, and nothing else has changed. -/
structure Memory.Shows (scheme : IdScheme) (rows : List Row) (m m' : Memory) : Prop where
  tables : m'.tables = m.tables
  regular : m'.Regular
  kept : ∀ ty pk u, m.mappings.idOf? ty pk = some u → m'.mappings.idOf? ty pk = some u
  mapped : ∀ ty pk, (m'.mappings.idOf? ty pk).isSome = true ↔ (m.mappings.idOf? ty pk).isSome = true ∨
    scheme = .publicId ∧ ∃ r ∈ rows, r.entityType = ty ∧ r.pk = pk

namespace Memory.Shows

theorem nil (hm : m.Regular) (scheme : IdScheme) : Shows scheme [] m m :=
  ⟨rfl, hm, fun _ _ _ h => h, fun _ _ => by simp⟩

theorem append {rows rows' : List Row} (h : Shows scheme rows m m') (h' : Shows scheme rows' m' m'') :
    Shows scheme (rows ++ rows') m m'' where
  tables := h'.tables.trans h.tables
  regular := h'.regular
  kept := fun ty pk u hu => h'.kept ty pk u (h.kept ty pk u hu)
  mapped := by
    intro ty pk
    rw [h'.mapped, h.mapped, or_assoc, ← and_or_left]
    simp only [List.mem_append, or_and_right, exists_or]

/-- A row that needs no entry, or has one. -/
theorem of_mapped (hm : m.Regular) {r : Row}
    (hr : scheme = .publicId → (m.mappings.idOf? r.entityType r.pk).isSome = true) : Shows scheme [r] m m where
  tables := rfl
  regular := hm
  kept := fun _ _ _ h => h
  mapped := by
    intro ty pk
    simp only [List.mem_singleton, exists_eq_left]
    refine ⟨.inl, fun h => h.elim id ?_⟩
    rintro ⟨hs, rfl, rfl⟩
    exact hr hs

/-- A row whose entry is asked for, or made. -/
theorem entryOrNew (hm : m.Regular) {t : Moment} {r : Row} {e : MappingEntry}
    (h : m.entryOrNew t r.entityType r.pk = (.ok e, m')) : Shows .publicId [r] m m' := by
  obtain ⟨mappings, rest, hget, rfl⟩ := entryOrNew_ok h
  have hcoherent := hm.coherent.getOrInsert hget
  rcases hm.coherent.getOrInsert_cases hget with ⟨he, rfl⟩ | ⟨hnone, -, he, -, rfl⟩
  · refine of_mapped hm fun _ => ?_
    have hid := (hm.coherent.entryOf?_eq_some_iff _ _ e).1 he
    rw [(hm.coherent.idOf?_eq_some_iff _ _ e.publicId).2 ⟨e, hid⟩]
    rfl
  · have hety : e.entityType = r.entityType := congrArg MappingEntry.entityType he
    have hpk : e.rowKey = r.pk := congrArg MappingEntry.rowKey he
    refine ⟨rfl, hm.of_parts rfl hcoherent, fun ty pk u hu => ?_, fun ty pk => ?_⟩
    · change (m.mappings.add e).idOf? ty pk = some u
      rw [MappingTable.idOf?_add, if_neg, hu]
      rintro heq
      obtain ⟨rfl, rfl⟩ := Prod.mk.inj heq
      rw [hety, hpk, hnone] at hu
      cases hu
    · change ((m.mappings.add e).idOf? ty pk).isSome = true ↔ _
      rw [MappingTable.idOf?_add]
      simp only [hety, hpk, Prod.mk.injEq, List.mem_singleton, exists_eq_left, true_and]
      split
      next heq => simp [heq]
      next hne => simp [hne]

/-- A row whose id was asked for. -/
theorem of_externalId (hmodel : registry.get? r.entityType = some model) (hm : w.memory.Regular)
    (h : World.run registry moments (externalId registry r) w = (.ok id, w')) :
    w.memory.Shows (model.scheme w.flag) [r] w'.memory := by
  rw [World.run_externalId hmodel, World.run_idOf] at h
  cases hscheme : model.scheme w.flag with
  | legacy =>
    rw [hscheme] at h
    cases h
    exact .of_mapped hm nofun
  | pk =>
    rw [hscheme] at h
    cases h
    exact .of_mapped hm nofun
  | publicId =>
    rw [hscheme] at h
    rcases heq : Memory.entryOrNew (moments w.tick.calls) w.tick.memory r.entityType r.pk with ⟨_ | e, m'⟩
    · rw [heq] at h
      cases h
    · rw [heq] at h
      cases h
      exact .entryOrNew hm heq

/-- Rows do not come or go when they are shown. -/
theorem stored {rows : List Row} (h : Shows scheme rows m m') (ty : String) : m'.stored ty = m.stored ty := by
  simp only [Memory.stored, table, h.tables]

/-- Where nothing new is shown, the entries are what they were. -/
theorem idOf?_eq {rows : List Row} (h : Shows scheme rows m m')
    (hold : scheme = .publicId → ∀ r ∈ rows, (m.mappings.idOf? r.entityType r.pk).isSome = true) (ty : String)
    (pk : Int64) : m'.mappings.idOf? ty pk = m.mappings.idOf? ty pk := by
  cases hid : m.mappings.idOf? ty pk with
  | some u => exact h.kept ty pk u hid
  | none =>
    rw [Option.eq_none_iff_forall_ne_some]
    intro u hu
    have hmapped := (h.mapped ty pk).1 (by rw [hu]; rfl)
    rcases hmapped with hmapped | ⟨hs, r, hr, rfl, rfl⟩
    · rw [hid] at hmapped
      cases hmapped
    · have := hold hs r hr
      rw [hid] at this
      cases this

end Memory.Shows

/-- A row keeps its id while others are shown. -/
theorem Row.HasId.shows {rows : List Row} (h : r.HasId m scheme id) (hm : m.Regular)
    (hshows : Memory.Shows scheme rows m m') : r.HasId m' scheme id := by
  cases scheme with
  | legacy => exact h
  | pk => exact h
  | publicId =>
    obtain ⟨e, he, rfl⟩ := h
    rw [hasId_publicId_iff hshows.regular]
    exact hshows.kept _ _ _ ((hasId_publicId_iff hm r _).1 ⟨e, he, rfl⟩)

namespace World

/-- Every call of a run that has to draw an id can draw an unused one. -/
def RunSupplied (registry : Registry) (moments : Nat → Moment) {α : Type} (a : Action α) (w : World) : Prop :=
  a.run.Throughout (answer registry moments) (supplied moments · · = true) w

theorem runSupplied_bind {α β : Type} {a : Action α} {f : α → Action β} {w : World} :
    RunSupplied registry moments (a >>= f) w ↔
      RunSupplied registry moments a w ∧
        ∀ x w', run registry moments a w = (.ok x, w') → RunSupplied registry moments (f x) w' :=
  Program.throughout_bind a f w

/-- The id of a listed row, be it found by the query or asked for, is the id that the row has. -/
theorem listedId_ok (hmodel : registry.get? a.row.entityType = some model) (hm : w.memory.Regular)
    (hfound : ∀ u, a.publicId = some u → a.row.HasId w.memory (model.scheme w.flag) (.publicId u))
    (h : run registry moments (listedId registry a) w = (.ok id, w')) :
    w.memory.Shows (model.scheme w.flag) [a.row] w'.memory ∧ a.row.HasId w'.memory (model.scheme w.flag) id := by
  unfold listedId at h
  cases hid : a.publicId with
  | some u =>
    rw [hid] at h
    cases h
    have hhas := hfound u hid
    refine ⟨.of_mapped hm fun hscheme => ?_, hhas⟩
    rw [hscheme, Row.hasId_publicId_iff hm] at hhas
    rw [hhas]
    rfl
  | none =>
    rw [hid] at h
    exact ⟨.of_externalId hmodel hm h, (externalId_ok hmodel hm h).2.2⟩

theorem exists_listedId (hmodel : registry.get? a.row.entityType = some model) (hm : w.memory.Regular)
    (hsupplied : RunSupplied registry moments (listedId registry a) w) :
    ∃ id w', run registry moments (listedId registry a) w = (.ok id, w') := by
  unfold listedId at hsupplied ⊢
  cases hid : a.publicId with
  | some u => exact ⟨_, _, rfl⟩
  | none =>
    simp only [hid] at hsupplied
    refine exists_externalId hmodel hm fun hscheme hnone => ?_
    unfold externalId at hsupplied
    rw [runSupplied_bind] at hsupplied
    have hrest := hsupplied.2 model w (by rw [run_result, (registry.model_eq_ok_iff _ _).2 hmodel])
    have hlast := (runSupplied_bind.1 hrest).2 _ _ (run_currentScheme model w)
    rw [hscheme] at hlast
    have hdraw := hlast (.entryOrNew a.row.entityType a.row.pk, w.tick) List.mem_cons_self
    simpa [supplied, hnone] using hdraw

/-- The rows of a page under their ids, one after another. -/
theorem mapM_listedId_ok {views : List RowView} (hm : w.memory.Regular)
    (hmodel : ∀ a ∈ found, registry.get? a.row.entityType = some model)
    (hfound : ∀ a ∈ found, ∀ u, a.publicId = some u → a.row.HasId w.memory (model.scheme w.flag) (.publicId u))
    (h : run registry moments (found.mapM fun a => do return (⟨← listedId registry a, a.row⟩ : RowView)) w =
      (.ok views, w')) :
    views.map (·.row) = found.map (·.row) ∧
      w.memory.Shows (model.scheme w.flag) (found.map (·.row)) w'.memory ∧
      ∀ v ∈ views, v.row.HasId w'.memory (model.scheme w.flag) v.id := by
  induction found generalizing w views with
  | nil =>
    cases h
    exact ⟨rfl, .nil hm _, nofun⟩
  | cons a found ih =>
    rw [List.mapM_cons, run_bind_eq_ok_iff] at h
    obtain ⟨v, w₁, hhead, hrest⟩ := h
    obtain ⟨views', w₂, htail, hlast⟩ := (run_bind_eq_ok_iff _ _ _ _ _).1 hrest
    obtain ⟨id, _, hid, hview⟩ := (run_bind_eq_ok_iff _ _ _ _ _).1 hhead
    cases hview
    cases hlast
    obtain ⟨hshows, hhas⟩ := listedId_ok (hmodel a List.mem_cons_self) hm (hfound a List.mem_cons_self) hid
    have hflag : w₁.flag = w.flag := flag_of_run hid
    -- an id that the query found is kept while the rows before are shown
    obtain ⟨hrows, hshows', hhas'⟩ := ih hshows.regular (fun b hb => hmodel b (List.mem_cons_of_mem _ hb))
      (fun b hb u hu => hflag ▸ (hfound b (List.mem_cons_of_mem _ hb) u hu).shows hm hshows) htail
    rw [hflag] at hshows' hhas'
    refine ⟨?_, hshows.append hshows', fun v hv => ?_⟩
    · rw [List.map_cons, List.map_cons, hrows]
    · rcases List.mem_cons.1 hv with rfl | hv
      · exact hhas.shows hshows.regular hshows'
      · exact hhas' v hv

theorem exists_mapM_listedId (hm : w.memory.Regular)
    (hmodel : ∀ a ∈ found, registry.get? a.row.entityType = some model)
    (hfound : ∀ a ∈ found, ∀ u, a.publicId = some u → a.row.HasId w.memory (model.scheme w.flag) (.publicId u))
    (hsupplied : RunSupplied registry moments
      (found.mapM fun a => do return (⟨← listedId registry a, a.row⟩ : RowView)) w) :
    ∃ views w', run registry moments (found.mapM fun a => do return (⟨← listedId registry a, a.row⟩ : RowView)) w =
      (.ok views, w') := by
  induction found generalizing w with
  | nil => exact ⟨[], w, rfl⟩
  | cons a found ih =>
    rw [List.mapM_cons] at hsupplied ⊢
    obtain ⟨hhead, hrest⟩ := runSupplied_bind.1 hsupplied
    obtain ⟨id, w₁, hid⟩ := exists_listedId (hmodel a List.mem_cons_self) hm (runSupplied_bind.1 hhead).1
    have hview : run registry moments (do return (⟨← listedId registry a, a.row⟩ : RowView)) w =
        (.ok ⟨id, a.row⟩, w₁) := by
      rw [run_bind, hid]
      rfl
    have htail := (runSupplied_bind.1 (hrest _ _ hview)).1
    obtain ⟨hshows, -⟩ := listedId_ok (hmodel a List.mem_cons_self) hm (hfound a List.mem_cons_self) hid
    have hflag : w₁.flag = w.flag := flag_of_run hid
    obtain ⟨views, w', hviews⟩ := ih hshows.regular (fun b hb => hmodel b (List.mem_cons_of_mem _ hb))
      (fun b hb u hu => hflag ▸ (hfound b (List.mem_cons_of_mem _ hb) u hu).shows hm hshows) htail
    refine ⟨⟨id, a.row⟩ :: views, w', ?_⟩
    simp only [run_bind, hview, hviews, run_pure]

/-! ## The page -/

theorem run_collection (hi : registry.Indexed) (hmodel : registry.get? model.entityType = some model) (w : World) :
    run registry moments (liftM (collection registry model.plural)) w = (.ok model, w) := by
  have hplural := (hi.byPlural?_eq_some_iff model.plural model).2 ⟨((hi.get?_eq_some_iff _ _).1 hmodel).1, rfl⟩
  rw [run_result, collection, hplural]

end World

/-- The part of the rows of a query that a page shows. -/
def ListParams.cut (params : ListParams) (rows : List AnnotatedRow) : List AnnotatedRow :=
  (rows.drop ((params.pageNumber - 1) * params.pageSize)).take params.pageSize

theorem ListParams.mem_of_mem_cut {rows : List AnnotatedRow} (h : a ∈ params.cut rows) : a ∈ rows :=
  List.mem_of_mem_drop (List.mem_of_mem_take h)

/-- The query of a list finds rows of the model, and public ids that are theirs. -/
theorem Memory.Regular.mem_select_query (hm : m.Regular) (hq : params.query model scheme = .ok q)
    (ha : a ∈ m.select q) :
    a.row.entityType = model.entityType ∧ m.row? model.entityType a.row.pk = some a.row ∧
      ∀ u, a.publicId = some u → a.row.HasId m scheme (.publicId u) := by
  obtain ⟨-, publicId, -, rfl⟩ := ListParams.query_ok hq
  have htype : (pageQueryFor model scheme params.sortKey publicId).entityType = model.entityType := by
    cases scheme <;> rfl
  obtain ⟨hstored, -, hid, -⟩ := (m.mem_select_iff _ a).1 ha
  rw [htype] at hstored hid
  have hrow := (hm.mem_stored_iff _ _).1 hstored
  obtain ⟨hty, -⟩ := hm.filed _ _ _ hrow
  refine ⟨hty, hrow, fun u hu => ?_⟩
  rw [hu] at hid
  cases scheme with
  | legacy => cases hid
  | pk => cases hid
  | publicId => exact (Row.hasId_publicId_iff hm _ _).2 (hty ▸ hid.symm)

namespace World

/-- **A page shows its part of the list**, each row under the id that it has afterwards, and leaves the rows shown with
their entries. -/
theorem listRows_ok (hi : registry.Indexed) (hmodel : registry.get? model.entityType = some model)
    (hm : w.memory.Regular) {page : RowPage}
    (h : run registry moments (listRows registry model.plural params) w = (.ok page, w')) :
    ∃ q, params.query model (model.scheme w.flag) = .ok q ∧
      page.rows.map (·.row) = (params.cut (w.memory.select q)).map (·.row) ∧
      page.info = .of params.pageNumber params.pageSize (w.memory.select q).length ∧
      w.memory.Shows (model.scheme w.flag) (page.rows.map (·.row)) w'.memory ∧
      ∀ v ∈ page.rows, v.row.HasId w'.memory (model.scheme w.flag) v.id := by
  unfold listRows at h
  simp only [run_bind_eq_ok_iff, run_collection hi hmodel, run_listQuery, Prod.mk.injEq, Except.ok.injEq] at h
  obtain ⟨_, _, ⟨rfl, rfl⟩, q, _, ⟨hq, rfl⟩, total, _, hcount, found, _, hpage, views, w₁, hviews, hlast⟩ := h
  obtain ⟨hvalid, -⟩ := ListParams.query_ok hq
  rw [run_countRows registry moments hvalid] at hcount
  cases hcount
  obtain ⟨n, hrows⟩ := run_pageRows (w := w.tick.tick) registry moments hm hvalid params.pageNumber params.pageSize
  simp only [memory_tick, flags_tick] at hrows hpage
  rw [hrows] at hpage
  cases hpage
  cases hlast
  obtain ⟨hsame, hshows, hhas⟩ := mapM_listedId_ok (w := { w with calls := n }) hm
    (fun a ha => (hm.mem_select_query hq (params.mem_of_mem_cut ha)).1.symm ▸ hmodel)
    (fun a ha => (hm.mem_select_query hq (params.mem_of_mem_cut ha)).2.2) hviews
  exact ⟨q, hq, hsame, rfl, hsame ▸ hshows, hhas⟩

/-- A list whose query is accepted has its page, as long as the ids that are needed can be drawn. -/
theorem exists_listRows_of_query (hi : registry.Indexed) (hmodel : registry.get? model.entityType = some model)
    (hm : w.memory.Regular) (hq : params.query model (model.scheme w.flag) = .ok q)
    (hsupplied : RunSupplied registry moments (listRows registry model.plural params) w) :
    ∃ page w', run registry moments (listRows registry model.plural params) w = (.ok page, w') := by
  obtain ⟨hvalid, -⟩ := ListParams.query_ok hq
  have hlist := run_listQuery registry moments model params w
  rw [hq] at hlist
  have hcount := run_countRows registry moments hvalid w.tick
  obtain ⟨n, hpage⟩ := run_pageRows (w := w.tick.tick) registry moments hm hvalid params.pageNumber params.pageSize
  simp only [memory_tick, flags_tick] at hcount hpage
  unfold listRows at hsupplied ⊢
  have h₁ := (runSupplied_bind.1 hsupplied).2 _ _ (run_collection hi hmodel w)
  have h₂ := (runSupplied_bind.1 h₁).2 _ _ hlist
  have h₃ := (runSupplied_bind.1 h₂).2 _ _ hcount
  have h₄ := (runSupplied_bind.1 ((runSupplied_bind.1 h₃).2 _ _ hpage)).1
  obtain ⟨views, w', hviews⟩ := exists_mapM_listedId (w := { w with calls := n }) hm
    (fun a ha => (hm.mem_select_query hq (params.mem_of_mem_cut ha)).1.symm ▸ hmodel)
    (fun a ha => (hm.mem_select_query hq (params.mem_of_mem_cut ha)).2.2) h₄
  refine ⟨⟨views, .of params.pageNumber params.pageSize (w.memory.select q).length⟩, w', ?_⟩
  simp only [run_bind_eq_ok_iff]
  exact ⟨_, _, run_collection hi hmodel w, _, _, hlist, _, _, hcount, _, _, hpage, _, _, hviews, rfl⟩

/-- **A page of the whole list shows its part of it**, and leaves the rows shown with their entries. -/
theorem exists_listRows (hi : registry.Indexed) (hmodel : registry.get? model.entityType = some model)
    (hm : w.memory.Regular) (hp : params.publicId = none)
    (hvalid : readsIds params.sortKey = true → model.scheme w.flag = .publicId)
    (hsupplied : RunSupplied registry moments (listRows registry model.plural params) w) :
    ∃ page w', run registry moments (listRows registry model.plural params) w = (.ok page, w') ∧
      page.rows.map (·.row) =
        ((w.memory.listed model (model.scheme w.flag) params.sortKey).drop
          ((params.pageNumber - 1) * params.pageSize)).take params.pageSize ∧
      page.info = .of params.pageNumber params.pageSize (w.memory.stored model.entityType).length ∧
      w.memory.Shows (model.scheme w.flag) (page.rows.map (·.row)) w'.memory ∧ w'.flags = w.flags := by
  have hq : params.query model (model.scheme w.flag) = .ok (pageQuery model (model.scheme w.flag) params.sortKey) := by
    rw [ListParams.query_of_none hp, if_pos ((pageQuery_isValid_iff model _ _).2 hvalid)]
  obtain ⟨page, w', h⟩ := exists_listRows_of_query hi hmodel hm hq hsupplied
  obtain ⟨_, hq', hrows, hinfo, hshows, -⟩ := listRows_ok hi hmodel hm h
  obtain rfl := Except.ok.inj (hq.symm.trans hq')
  refine ⟨page, w', h, ?_, ?_, hshows, flags_of_run h⟩
  · rw [hrows, ListParams.cut, List.map_take, List.map_drop, Memory.listed]
  · rw [hinfo, ← w.memory.length_listed model (model.scheme w.flag) params.sortKey, Memory.listed, List.length_map]

/-- Sorted by public ids where none are shown, a list is refused, whatever its page. -/
theorem run_listRows_refused (hi : registry.Indexed) (hmodel : registry.get? model.entityType = some model)
    (hp : params.publicId = none) (hreads : readsIds params.sortKey = true)
    (hscheme : model.scheme w.flag ≠ .publicId) :
    ∃ reason, run registry moments (listRows registry model.plural params) w =
      (.error (.invalidFormat (params.sort.getD "") reason), w.tick) := by
  have hq : ¬ (pageQuery model (model.scheme w.flag) params.sortKey).isValid = true :=
    fun hq => hscheme ((pageQuery_isValid_iff model _ _).1 hq hreads)
  refine ⟨(pageQuery model (model.scheme w.flag) params.sortKey).complaint, ?_⟩
  unfold listRows
  simp only [run_bind, run_collection hi hmodel, run_listQuery, ListParams.query_of_none hp, if_neg hq]

end World

end RowIdentity
