import RowIdentity.Proofs.Serving.Cycle

/-!
# The ids of listed items

The id of a row reaches a client by three routes: a query looks the public ids of many rows up together, a list takes
over what its query found and asks for the rest row by row, and a row that is read alone is asked for its id.

* `Memory.Regular.publicId_of_mem_select` — what a query finds for a row is what the entry of the row holds;
* `Memory.Owner`, `Regular.select_of_owner`, `select_of_no_owner` — a query for one public id finds its owner alone;
* `Row.HasId.lookup_text` — an id that can be read stands for its row;
* `listed_ids_agree` — **the three routes agree**.
-/

namespace RowIdentity

variable {registry : Registry} {m : Memory} {model : Model} {r : Row} {q : RowQuery}
  {u : Uuid} {id id' : ExternalId} {scheme : IdScheme} {a : AnnotatedRow}

/-! ## Public ids that a query finds -/

namespace Memory

/-- A query that asks for public ids finds for each row what the entry of the row holds. -/
theorem Regular.publicId_of_mem_select (hm : m.Regular) (hq : q.annotated = true) (ha : a ∈ m.select q) :
    a.publicId = (m.mappings.entryOf? a.row.entityType a.row.pk).map (·.publicId) := by
  obtain ⟨hstored, -, hid, -⟩ := (m.mem_select_iff q a).1 ha
  obtain ⟨hty, -⟩ := hm.filed _ _ _ ((hm.mem_stored_iff _ _).1 hstored)
  rw [hid, if_pos hq, hm.coherent.idOf?_eq, hty]

/-- The stored row that a query for a public id is after: it is of the type, among the keys if any are given, and its
entry holds the public id. -/
structure Owner (m : Memory) (q : RowQuery) (u : Uuid) (r : Row) : Prop where
  stored : m.row? q.entityType r.pk = some r
  wanted : ∀ pks, q.pks = some pks → r.pk ∈ pks
  owns : ∃ e, m.mappings.entryOf? q.entityType r.pk = some e ∧ e.publicId = u

/-- What a query for a public id selects is owned by it. -/
theorem Regular.mem_select_iff_owner (hm : m.Regular) (hq : q.annotated = true) (hu : q.publicId = some u) :
    a ∈ m.select q ↔ m.Owner q u a.row ∧ a.publicId = some u := by
  rw [mem_select_iff, hm.mem_stored_iff, if_pos hq, hm.coherent.idOf?_eq]
  simp only [hu, Option.some.injEq, forall_eq']
  constructor
  · rintro ⟨hstored, hwanted, hid, ha⟩
    exact ⟨⟨hstored, hwanted, Option.map_eq_some_iff.1 (hid ▸ ha)⟩, ha⟩
  · rintro ⟨⟨hstored, hwanted, howns⟩, ha⟩
    exact ⟨hstored, hwanted, ha.trans (Option.map_eq_some_iff.2 howns).symm, ha⟩

/-- A public id has one owner. -/
theorem Owner.unique {r' : Row} (hm : m.Regular) (h : m.Owner q u r) (h' : m.Owner q u r') : r = r' := by
  obtain ⟨e, he, rfl⟩ := h.owns
  obtain ⟨e', he', hu⟩ := h'.owns
  obtain ⟨hid, -, hpk⟩ := (hm.coherent.entryOf?_eq_some_iff _ _ e).1 he
  obtain ⟨hid', -, hpk'⟩ := (hm.coherent.entryOf?_eq_some_iff _ _ e').1 he'
  rw [hu] at hid'
  obtain rfl := Option.some.inj (hid.symm.trans hid')
  have hstored' := h'.stored
  rw [← hpk', hpk, h.stored] at hstored'
  exact Option.some.inj hstored'

theorem Regular.select_of_owner (hm : m.Regular) (hq : q.annotated = true) (hu : q.publicId = some u)
    (h : m.Owner q u r) : m.select q = [⟨r, some u⟩] := by
  have hall : ∀ a ∈ m.select q, a = ⟨r, some u⟩ := by
    rintro ⟨r', id⟩ ha
    obtain ⟨howner, rfl⟩ := (hm.mem_select_iff_owner hq hu).1 ha
    obtain rfl : r' = r := howner.unique hm h
    rfl
  have hmem : (⟨r, some u⟩ : AnnotatedRow) ∈ m.select q := (hm.mem_select_iff_owner hq hu).2 ⟨h, rfl⟩
  have hnodup : (m.select q).Nodup := (hm.nodup_select q).of_map
  refine List.perm_singleton.1 ((List.perm_ext_iff_of_nodup hnodup (List.nodup_singleton _)).2 fun a => ?_)
  rw [List.mem_singleton]
  exact ⟨hall a, fun ha => ha ▸ hmem⟩

theorem Regular.select_of_no_owner (hm : m.Regular) (hq : q.annotated = true) (hu : q.publicId = some u)
    (h : ∀ r, ¬ m.Owner q u r) : m.select q = [] :=
  List.eq_nil_iff_forall_not_mem.2 fun a ha => h a.row ((hm.mem_select_iff_owner hq hu).1 ha).1

end Memory

/-! ## Ids that are asked for -/

theorem Row.HasId.unique (h : r.HasId m scheme id) (h' : r.HasId m scheme id') : id = id' := by
  cases scheme with
  | legacy => exact h.trans h'.symm
  | pk => exact h.trans h'.symm
  | publicId =>
    obtain ⟨e, he, rfl⟩ := h
    obtain ⟨e', he', rfl⟩ := h'
    rw [Option.some.inj (he.symm.trans he')]

/-- An id can be read where it is a public id of version 4, or a key that is not negative. -/
def ExternalId.Readable (id : ExternalId) : Prop :=
  (∃ u, id = .publicId u ∧ u.IsV4) ∨ ∃ pk, id.key? = some pk ∧ 0 ≤ pk

/-- Where the id of a row can be read, it stands for the key of the row. -/
theorem Row.HasId.lookup_text {flag : Bool} (h : r.HasId m (model.scheme flag) id) (hm : m.Regular)
    (hty : r.entityType = model.entityType) (hid : id.Readable) : m.lookup flag model id.text = .ok r.pk := by
  refine h.lookup_of_readable hm hty (fun hscheme => ?_) fun u hu => ?_
  · rcases hid with ⟨u, hu, -⟩ | ⟨pk, hpk, hnonneg⟩
    · exact absurd hu ((h.of_ne hscheme).2 u)
    · rw [h.key?_of_ne hscheme] at hpk
      exact Option.some.inj hpk ▸ hnonneg
  · rcases hid with ⟨u', rfl, hv4⟩ | ⟨pk, hpk, -⟩
    · exact ExternalId.publicId.inj hu ▸ hv4
    · rw [hu] at hpk
      cases hpk

/-! ## The three routes -/

/-- **The three routes to the id of a row agree**, from every reachable state. What a query finds is what the entry of
the row holds, if there is one; a query for one public id finds its owner, and nothing where there is none. What a list
shows for a row is what the row is given when it is asked for alone: afterwards, and before as well where asking makes
no entry. By an id that can be read, the very item is shown. -/
theorem listed_ids_agree (hreg : registry.Built) (moments : Nat → Moment) (w : World)
    (hw : Memory.Reachable registry w.memory) :
    (∀ q, q.annotated = true → ∃ rows, w.memory.fetch q = .ok rows ∧ ∀ a ∈ rows,
      a.publicId = (w.memory.mappings.entryOf? a.row.entityType a.row.pk).map (·.publicId)) ∧
    (∀ q u, q.annotated = true → q.publicId = some u → q.offset = 0 → q.limit = none →
      (∀ r, w.memory.Owner q u r → w.memory.fetch q = .ok [⟨r, some u⟩]) ∧
      ((∀ r, ¬ w.memory.Owner q u r) → w.memory.fetch q = .ok [])) ∧
    ∀ model params page w', registry.get? model.entityType = some model →
      World.run registry moments (listRows registry model.plural params) w = (.ok page, w') →
      ∀ v ∈ page.rows,
        (World.run registry moments (externalId registry v.row) w').1 = .ok v.id ∧
        (∀ id w₀, World.run registry moments (externalId registry v.row) w = (.ok id, w₀) → w₀.memory = w.memory →
          id = v.id) ∧
        (v.id.Readable → (World.run registry moments (getRow registry model.plural v.id.text) w').1 = .ok v) := by
  have hm := hw.regular
  refine ⟨fun q hq => ?_, fun q u hq hu hoffset hlimit => ?_, fun model params page w' hmodel h v hv => ?_⟩
  · refine ⟨_, w.memory.fetch_eq (q.isValid_of_annotated hq), fun a ha => ?_⟩
    exact hm.publicId_of_mem_select hq (q.mem_of_mem_page ha)
  · rw [w.memory.fetch_eq_select (q.isValid_of_annotated hq) hoffset hlimit]
    exact ⟨fun r howner => congrArg _ (hm.select_of_owner hq hu howner),
      fun hnone => congrArg _ (hm.select_of_no_owner hq hu hnone)⟩
  · have hi := hreg.indexed
    obtain ⟨q, hq, hrows, -, hshows, hhas⟩ := World.listRows_ok hi hmodel hm h
    have hflag : w'.flag = w.flag := World.flag_of_run h
    have hid := hhas v hv
    -- the item is a stored row of the model
    obtain ⟨a, ha, harow⟩ := List.mem_map.1 (hrows ▸ List.mem_map_of_mem hv)
    obtain ⟨hty, hrow, -⟩ := hm.mem_select_query hq (params.mem_of_mem_cut ha)
    rw [harow] at hty hrow
    have hmodel' : registry.get? v.row.entityType = some model := hty.symm ▸ hmodel
    have hid' : v.row.HasId w'.memory (model.scheme w'.flag) v.id := hflag.symm ▸ hid
    refine ⟨?_, fun id w₀ hask hsame => ?_, fun hread => ?_⟩
    · obtain ⟨n, hrun⟩ := hid'.run_externalId moments hmodel'
      rw [hrun]
    · obtain ⟨-, -, hbefore⟩ := World.externalId_ok hmodel' hm hask
      rw [hsame] at hbefore
      exact (hbefore.shows hm hshows).unique hid
    · have hrow' : w'.memory.row? model.entityType v.row.pk = some v.row := by
        rw [Memory.row?, Memory.table, hshows.tables]
        exact hrow
      obtain ⟨n, hget⟩ := World.run_getRow_of_lookup moments hi hmodel hshows.regular
        (hid'.lookup_text hshows.regular hty hread) hrow' hid'
      rw [hget]

/-- The owner of a public id is found by it. And of two widgets without entries a list shows the ids that it makes for
them, by which they are read again. -/
theorem listed_ids_agree_widgets :
    (World.widget true).memory.fetch { RowQuery.all "shop.widget" with publicId := some .zeroV4, annotated := true } =
        .ok [⟨.widget, some .zeroV4⟩] ∧
      ∃ page w', World.run .widgets .counted (listRows .widgets "widgets" .default) .loaded = (.ok page, w') ∧
        page.rows = [⟨.publicId (.ending 4), .widget⟩, ⟨.publicId (.ending 6), { Row.widget with pk := 2 }⟩] ∧
        ∀ v ∈ page.rows, (World.run .widgets .counted (externalId .widgets v.row) w').1 = .ok v.id ∧
          (World.run .widgets .counted (getRow .widgets "widgets" v.id.text) w').1 = .ok v := by
  obtain ⟨-, hquery, -⟩ := listed_ids_agree Registry.built_widgets (fun _ => .start) _ (Memory.reachable_widget true)
  obtain ⟨-, -, hlist⟩ := listed_ids_agree Registry.built_widgets .counted .loaded Memory.reachable_loaded
  refine ⟨(hquery _ .zeroV4 rfl rfl rfl rfl).1 .widget ⟨rfl, nofun, _, rfl, rfl⟩, _, _, rfl, rfl, fun v hv => ?_⟩
  obtain ⟨hid, -, hget⟩ := hlist Registry.widget .default _ _ rfl rfl v hv
  have hread : ∀ v ∈ ([⟨.publicId (.ending 4), .widget⟩, ⟨.publicId (.ending 6), { Row.widget with pk := 2 }⟩] :
      List RowView), v.id.Readable := by
    simp only [List.forall_mem_cons, List.not_mem_nil, false_implies, implies_true, and_true]
    exact ⟨.inl ⟨_, rfl, by decide⟩, .inl ⟨_, rfl, by decide⟩⟩
  exact ⟨hid, hget (hread v hv)⟩

end RowIdentity
