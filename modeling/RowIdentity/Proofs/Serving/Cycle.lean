import RowIdentity.Proofs.Serving.FreshRow
import RowIdentity.Proofs.Serving.Request

/-!
# Creating, reading and deleting a row

* `Json.idSegment?` — the id in a response, as a client writes it into a path;
* `Memory.lookup_toText`, `lookup_text` — what the ids that are shown stand for;
* `Fresh.hasId` — a fresh row has an id at once, which no other row has had;
* `Row.HasId.lookup_of_readable`, `lookup`, `gone` — while the row is stored the id stands for it, and afterwards for
  nothing;
* `create_read_delete_cycle` — **a row is created, read and deleted under one id, and nothing is left of it**.
-/

namespace RowIdentity

variable {registry : Registry} {moments : Nat → Moment} {t : Moment} {m m' : Memory} {model : Model} {r : Row}
  {flag : Bool} {id : ExternalId} {w : World}

/-! ## Ids in responses and paths -/

/-- The id in an object, as a client writes it into a path. -/
def Json.idSegment? (j : Json) : Option String :=
  match j.field? "id" with
  | some (.str s) => some s
  | some (.num (.int n)) => some (Decimal.text n)
  | _ => none

theorem RowView.idSegment?_toJson (v : RowView) : v.toJson.idSegment? = some v.id.text := by
  obtain ⟨id, r⟩ := v
  cases id <;> rfl

namespace Memory

/-- A canonical UUID stands for the key of its entry, which must be of the model. -/
theorem lookup_toText {u : Uuid} (hv4 : u.IsV4) (m : Memory) (model : Model) :
    m.lookup true model u.toText =
      match m.mappings.entryById? u with
      | none => .error (.notFound model.entityType u.toText)
      | some e =>
        if e.entityType = model.entityType then .ok e.rowKey
        else .error (.typeMismatch model.entityType e.entityType) := by
  have hc : isCanonicalV4 u.toText = true := (isCanonicalV4_iff _).2 ⟨u, hv4, rfl⟩
  rw [lookup, hc, Bool.true_and, if_pos rfl]
  simp only [publicIdKey, parsePublicId_toText, bind, Except.bind, pure, Except.pure]
  cases m.mappings.entryById? u with
  | none => rfl
  | some e =>
    by_cases hty : e.entityType = model.entityType
    · simp [hty]
    · simp [hty, throw, throwThe, MonadExceptOf.throw]

/-- The text of a key stands for the key where no public ids are shown. -/
theorem lookup_text {pk : Int64} (hpk : 0 ≤ pk) (hscheme : model.scheme flag ≠ .publicId) (m : Memory) :
    m.lookup flag model (Decimal.text pk.toInt) = .ok pk := by
  refine (lookup_numeric_iff ?_ ((isNumeric_text_iff pk).2 hpk)).2 ⟨hscheme, parseKey_text_of_nonneg hpk⟩
  simp [not_isCanonicalV4_text]

end Memory

/-! ## The id of a fresh row -/

/-- **A fresh row has an id at once.** A public id of it was drawn, and nobody had it before. -/
theorem Memory.Fresh.hasId (h : Fresh registry t m r m') (hm : m.Regular)
    (hmodel : registry.get? r.entityType = some model) (flag : Bool) :
    ∃ id, r.HasId m' (model.scheme flag) id ∧
      ∀ u, id = .publicId u → u ∈ t.draws ∧ m.mappings.entryById? u = none := by
  cases hscheme : model.scheme flag with
  | legacy => exact ⟨_, rfl, nofun⟩
  | pk => exact ⟨_, rfl, nofun⟩
  | publicId =>
    have htracks := (Memory.tracks_eq_true_iff _ _).2 ⟨model, hmodel, ((model.scheme_eq_publicId_iff flag).1 hscheme).2⟩
    rcases h.mappings_cases hm with ⟨-, e, hkey, hdraw, hfree, heq⟩ | ⟨hnot, -⟩
    · obtain ⟨hty, hpk⟩ := Prod.mk.inj hkey
      have hentry : m'.mappings.entryOf? r.entityType r.pk = some e := by
        rw [(hm.inserted h.inserted).coherent.entryOf?_eq_some_iff, heq, MappingTable.entryById?_add, if_pos rfl]
        exact ⟨rfl, hty, hpk⟩
      refine ⟨.publicId e.publicId, ⟨e, hentry, rfl⟩, fun u hu => ?_⟩
      obtain rfl := ExternalId.publicId.inj hu
      exact ⟨hdraw, hfree⟩
    · rw [hnot] at htracks
      cases htracks

namespace Row.HasId

/-- An id that can be read stands for the key of its row. -/
theorem lookup_of_readable (h : r.HasId m (model.scheme flag) id) (hm : m.Regular)
    (hty : r.entityType = model.entityType) (hpk : model.scheme flag ≠ .publicId → 0 ≤ r.pk)
    (hv4 : ∀ u, id = .publicId u → u.IsV4) : m.lookup flag model id.text = .ok r.pk := by
  by_cases hscheme : model.scheme flag = .publicId
  · rw [hscheme] at h
    obtain ⟨e, he, rfl⟩ := h
    obtain ⟨hid, hety, hepk⟩ := (hm.coherent.entryOf?_eq_some_iff _ _ e).1 he
    obtain ⟨rfl, -⟩ := (model.scheme_eq_publicId_iff flag).1 hscheme
    rw [ExternalId.text, Memory.lookup_toText (hv4 _ rfl), hid]
    simp only [hety, hty, hepk, if_true]
  · rw [(h.of_ne hscheme).1]
    exact Memory.lookup_text (hpk hscheme) hscheme m

/-- **While a row is stored, its id stands for its key.** -/
theorem lookup (h : r.HasId m (model.scheme flag) id) (hm : m.Regular) (hty : r.entityType = model.entityType)
    (hpk : 0 ≤ r.pk) (hv4 : ∀ u, id = .publicId u → u.IsV4) : m.lookup flag model id.text = .ok r.pk :=
  h.lookup_of_readable hm hty (fun _ => hpk) hv4

/-- **Where the row is not stored and its public id has no entry, the id stands for nothing.** -/
theorem gone (h : r.HasId m (model.scheme flag) id) (hpk : 0 ≤ r.pk) (hv4 : ∀ u, id = .publicId u → u.IsV4)
    (m' : Memory) (hfree : ∀ u, id = .publicId u → m'.mappings.entryById? u = none) :
    m'.lookup flag model id.text = .error (.notFound model.entityType id.text) ∨
      m'.lookup flag model id.text = .ok r.pk := by
  by_cases hscheme : model.scheme flag = .publicId
  · rw [hscheme] at h
    obtain ⟨e, -, rfl⟩ := h
    obtain ⟨rfl, -⟩ := (model.scheme_eq_publicId_iff flag).1 hscheme
    refine .inl ?_
    rw [ExternalId.text, Memory.lookup_toText (hv4 _ rfl), hfree _ rfl]
  · rw [(h.of_ne hscheme).1]
    exact .inr (Memory.lookup_text hpk hscheme m')

end Row.HasId

/-! ## Requests about a row -/

namespace World

variable {raw : String}

/-- A row with an id is shown under it, by whatever segment it is asked for. -/
theorem run_getRow_of_lookup (moments : Nat → Moment) (hi : registry.Indexed)
    (hmodel : registry.get? model.entityType = some model) (hm : w.memory.Regular)
    (hlookup : w.memory.lookup w.flag model raw = .ok r.pk)
    (hrow : w.memory.row? model.entityType r.pk = some r) (hid : r.HasId w.memory (model.scheme w.flag) id) :
    ∃ n, run registry moments (getRow registry model.plural raw) w = (.ok ⟨id, r⟩, { w with calls := n }) := by
  obtain ⟨hty, -⟩ := hm.filed _ _ _ hrow
  obtain ⟨n, hget⟩ := run_getRow moments hi hmodel raw w
  obtain ⟨n', hshown⟩ := Row.HasId.run_externalId (w := { w with calls := n }) moments (hty.symm ▸ hmodel) hid
  refine ⟨n', ?_⟩
  simpa only [hlookup, hrow, run_bind, hshown, run_pure] using hget

theorem exec_get (moments : Nat → Moment) (hi : registry.Indexed)
    (hmodel : registry.get? model.entityType = some model) (hm : w.memory.Regular)
    (hlookup : w.memory.lookup w.flag model raw = .ok r.pk)
    (hrow : w.memory.row? model.entityType r.pk = some r) (hid : r.HasId w.memory (model.scheme w.flag) id) :
    ∃ n, exec registry moments ((Request.get model.plural raw).program registry) w =
      (⟨200, .json (RowView.toJson ⟨id, r⟩)⟩, { w with calls := n }) := by
  obtain ⟨n, hget⟩ := run_getRow_of_lookup moments hi hmodel hm hlookup hrow hid
  refine ⟨n, ?_⟩
  simp only [Request.program, exec_handled, hget]

/-- A segment that stands for no stored row is answered with 404, and nothing changes. -/
theorem exec_not_found (moments : Nat → Moment) (hi : registry.Indexed)
    (hmodel : registry.get? model.entityType = some model) {pk : Int64}
    (hlookup : w.memory.lookup w.flag model raw = .error (.notFound model.entityType raw) ∨
      w.memory.lookup w.flag model raw = .ok pk)
    (hrow : w.memory.row? model.entityType pk = none) {request : Request}
    (hrequest : request ∈ [Request.get model.plural raw, Request.delete model.plural raw]) :
    ∃ n, exec registry moments (request.program registry) w =
      (⟨404, .json (IdError.notFound model.entityType raw).toJson⟩, { w with calls := n }) := by
  have hdelete : w.memory.delete model.entityType pk = (false, w.memory) := by
    rw [Memory.delete_eq, hrow]
    rfl
  simp only [List.mem_cons, List.not_mem_nil, or_false] at hrequest
  rcases hrequest with rfl | rfl
  · obtain ⟨n, hget⟩ := run_getRow moments hi hmodel raw w
    refine ⟨n, ?_⟩
    rcases hlookup with hlookup | hlookup
    · rw [hlookup] at hget
      simp only [Request.program, exec_handled, hget]
      rfl
    · simp only [hlookup, hrow] at hget
      simp only [Request.program, exec_handled, hget]
      rfl
  · obtain ⟨n, hrun⟩ := run_deleteRow moments hi hmodel raw w
    refine ⟨n, ?_⟩
    rcases hlookup with hlookup | hlookup
    · rw [hlookup] at hrun
      simp only [Request.program, exec_handled, hrun]
      rfl
    · simp only [hlookup, hdelete] at hrun
      simp only [Request.program, exec_handled, hrun]
      rfl

/-- A row that is created is shown under its id. -/
theorem exec_create (hi : registry.Indexed) (hmodel : registry.get? model.entityType = some model) {data : Json}
    (hcreate : Memory.create registry (moments w.calls) w.memory model.entityType data = (.ok r, m'))
    (hid : r.HasId m' (model.scheme w.flag) id) :
    ∃ n, exec registry moments ((Request.create model.plural data).program registry) w =
      (⟨201, .json (RowView.toJson ⟨id, r⟩)⟩, { w with memory := m', calls := n }) := by
  obtain ⟨rfl, -, -⟩ := Memory.create_ok hcreate
  obtain ⟨n, hshown⟩ := Row.HasId.run_externalId (w := { w with memory := m', calls := w.calls + 1 }) moments hmodel hid
  have hrun := run_createRow moments hi hmodel data w
  simp only [hcreate, run_bind, hshown, run_pure] at hrun
  exact ⟨n, by simp only [Request.program, exec_handled, hrun]⟩

/-- A stored row that a segment stands for is deleted. -/
theorem exec_delete (moments : Nat → Moment) (hi : registry.Indexed)
    (hmodel : registry.get? model.entityType = some model) {pk : Int64}
    (hlookup : w.memory.lookup w.flag model raw = .ok pk) (hdelete : w.memory.delete model.entityType pk = (true, m')) :
    ∃ n, exec registry moments ((Request.delete model.plural raw).program registry) w =
      (.bare 204, { w with memory := m', calls := n }) := by
  obtain ⟨n, hrun⟩ := run_deleteRow moments hi hmodel raw w
  simp only [hlookup, hdelete, if_true] at hrun
  exact ⟨n, by simp only [Request.program, exec_handled, hrun]⟩

end World

/-- **The life of a row under its id.** From every state that was reached without a counter running over, without
orphaned entries and under any flags: where the counter has room and the draws hold UUIDs of version 4, an unused one
among them if an entry is to be made, a creation answers with 201 and shows an id. Read under this id, the row is shown
alike; deleted under it, it is gone, and all rows and entries are what they were before, only the counter has moved on.
From then on the id stands for nothing, and to ask for it changes nothing. -/
theorem create_read_delete_cycle (hreg : registry.Built) (moments : Nat → Moment) (w : World)
    (hw : Memory.Counted registry w.memory) (horphans : w.memory.NoOrphans) (model : Model)
    (hmodel : registry.get? model.entityType = some model) (hroom : w.memory.HasRoom model.entityType)
    (hv4 : ∀ u ∈ (moments w.calls).draws, u.IsV4)
    (hdraws : model.tracksPublicIds = true →
      ∃ u ∈ (moments w.calls).draws, w.memory.mappings.entryById? u = none) (data : Json) :
    ∃ view raw w₁ w₂ w₃,
      World.exec registry moments ((Request.create model.plural data).program registry) w =
        (⟨201, .json view⟩, w₁) ∧
      view.idSegment? = some raw ∧
      World.exec registry moments ((Request.get model.plural raw).program registry) w₁ = (⟨200, .json view⟩, w₂) ∧
      World.exec registry moments ((Request.delete model.plural raw).program registry) w₂ = (.bare 204, w₃) ∧
      (w₃.memory.table = w.memory.table ∧ w₃.memory.mappings = w.memory.mappings ∧
        w.memory.sequence model.entityType < w₃.memory.sequence model.entityType ∧
        ∀ ty, ty ≠ model.entityType → w₃.memory.sequence ty = w.memory.sequence ty) ∧
      ∀ request ∈ [Request.get model.plural raw, Request.delete model.plural raw], ∃ body w₄,
        World.exec registry moments (request.program registry) w₃ = (⟨404, body⟩, w₄) ∧ w₄.memory = w₃.memory := by
  have hi := hreg.indexed
  have hm := hw.reachable.regular
  have hdraws' : Memory.tracks registry model.entityType = true →
      ∃ u ∈ (moments w.calls).draws, w.memory.mappings.entryById? u = none := by
    intro htracks
    obtain ⟨model', hmodel', htracks'⟩ := (Memory.tracks_eq_true_iff _ _).1 htracks
    exact hdraws (Option.some.inj (hmodel.symm.trans hmodel') ▸ htracks')
  obtain ⟨m₁, hcreate⟩ := Memory.exists_create hm hmodel hdraws' data
  have hfresh := Memory.Fresh.of_create hm horphans hroom hcreate
  obtain ⟨id, hid, hdrawn⟩ := hfresh.hasId hm hmodel w.flag
  generalize hr : (⟨model.entityType, w.memory.nextKey model.entityType, data, (moments w.calls).now⟩ : Row) = r at *
  have hty : r.entityType = model.entityType := hr ▸ rfl
  have hpk : 0 ≤ r.pk := hr ▸ Int64.le_of_lt (hw.nextKey_pos hroom)
  have hv4' : ∀ u, id = .publicId u → u.IsV4 := fun u hu => hv4 u (hdrawn u hu).1
  have hm₁ := hm.inserted hfresh.inserted
  have hlookup := hid.lookup hm₁ hty hpk hv4'
  obtain ⟨m₂, hdelete, htable, hmappings, hsequences⟩ := hfresh.delete hm
  have hgone := hid.gone hpk hv4' m₂ fun u hu => hmappings ▸ (hdrawn u hu).2
  have hrow : m₂.row? model.entityType r.pk = none := by
    rw [Memory.row?, htable, Assoc.get?_eq_none_iff, ← hty]
    exact hfresh.free
  have hsequence : ∀ ty, m₂.sequence ty = if model.entityType = ty then w.memory.nextKey model.entityType else
      w.memory.sequence ty := by
    intro ty
    rw [← Memory.sequence_create hcreate, Memory.sequence, hsequences, Memory.sequence]
  obtain ⟨n₁, hcreated⟩ := World.exec_create hi hmodel hcreate hid
  obtain ⟨n₂, hshown⟩ := World.exec_get (w := { w with memory := m₁, calls := n₁ }) moments hi hmodel hm₁
    hlookup (hty ▸ hfresh.inserted.row?) hid
  obtain ⟨n₃, hdeleted⟩ := World.exec_delete (w := { w with memory := m₁, calls := n₂ }) moments hi hmodel
    hlookup (hty ▸ hdelete)
  refine ⟨_, id.text, _, _, _, hcreated, RowView.idSegment?_toJson ⟨id, r⟩, hshown, hdeleted,
    ⟨htable, hmappings, ?_, fun ty hne => ?_⟩, fun request hrequest => ?_⟩
  · rw [hsequence, if_pos rfl]
    exact Memory.sequence_lt_nextKey hroom
  · rw [hsequence, if_neg hne.symm]
  · obtain ⟨n₄, hmissing⟩ := World.exec_not_found (w := { w with memory := m₂, calls := n₃ }) moments hi
      hmodel hgone hrow hrequest
    exact ⟨_, _, hmissing, rfl⟩

/-- A third widget is created, shown and deleted, and the two others are left. -/
theorem create_read_delete_cycle_widgets :
    ∃ view raw w₁ w₂ w₃,
      World.exec .widgets (fun _ => .start) ((Request.create "widgets" .null).program .widgets) .loaded =
        (⟨201, .json view⟩, w₁) ∧
      view.idSegment? = some raw ∧
      World.exec .widgets (fun _ => .start) ((Request.get "widgets" raw).program .widgets) w₁ =
        (⟨200, .json view⟩, w₂) ∧
      World.exec .widgets (fun _ => .start) ((Request.delete "widgets" raw).program .widgets) w₂ = (.bare 204, w₃) ∧
      w₃.memory.table = World.loaded.memory.table := by
  have hcounted : Memory.Counted .widgets World.loaded.memory := .load _ _ _ .empty
  have hroom : World.loaded.memory.HasRoom Registry.widget.entityType := by decide
  have hv4 : ∀ u ∈ Moment.start.draws, u.IsV4 := by decide
  obtain ⟨view, raw, w₁, w₂, w₃, hcreated, hsegment, hshown, hdeleted, ⟨htable, -⟩, -⟩ :=
    create_read_delete_cycle Registry.built_widgets (fun _ => .start) .loaded hcounted nofun Registry.widget rfl hroom
      hv4 (fun _ => ⟨.zeroV4, by decide, rfl⟩) .null
  exact ⟨view, raw, w₁, w₂, w₃, hcreated, hsegment, hshown, hdeleted, htable⟩

end RowIdentity
