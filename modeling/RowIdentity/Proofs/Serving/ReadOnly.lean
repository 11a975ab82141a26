import RowIdentity.Graph.Execution
import RowIdentity.Http.Handler
import RowIdentity.Proofs.Concurrency.Told
import RowIdentity.Proofs.Resolution.Identity
import RowIdentity.Proofs.Resolution.Lookup

/-!
# Reads change nothing but to make entries

* `Memory.ShowsPublicId`, `Memory.Lazily` — stored rows whose model shows public ids, and states that have gained
  entries for such rows, one at a time;
* `Program.Looks`, `Action.Looks` — programs that lead from such states to such states, with one rule for each way to
  build them;
* `looks_externalId`, `looks_resolveNode`, `looks_listRows`, `looks_execute`, … — **so do all that read**;
* `ReadRequest`, `readRequest_readOnly` — what a request that reads leaves as it was.
-/

namespace RowIdentity

variable {registry : Registry} {moments : Nat → Moment} {flag : Bool} {t : Moment} {m m' : Memory} {w : World}
  {α β : Type}

/-! ## States that have gained entries -/

namespace Memory

/-- The row is stored, and its model shows public ids. -/
structure ShowsPublicId (registry : Registry) (flag : Bool) (m : Memory) (ty : String) (pk : Int64) : Prop where
  stored : (m.row? ty pk).isSome = true
  scheme : ∃ model, registry.get? ty = some model ∧ model.scheme flag = .publicId

/-- The state has gained entries since `m`, one at a time: each of a row that shows its public id and had none, under an
id that no row had. -/
inductive Lazily (registry : Registry) (flag : Bool) (m : Memory) : Memory → Prop
  | same : Lazily registry flag m m
  | add {m' : Memory} {e : MappingEntry} (h : Lazily registry flag m m')
      (hshows : m.ShowsPublicId registry flag e.entityType e.rowKey)
      (hrow : m'.mappings.idOf? e.entityType e.rowKey = none) (hid : m'.mappings.entryById? e.publicId = none) :
      Lazily registry flag m { m' with mappings := m'.mappings.add e }

namespace Lazily

theorem tables (h : Lazily registry flag m m') : m'.tables = m.tables := by
  induction h with
  | same => rfl
  | add _ _ _ _ ih => exact ih

theorem sequences (h : Lazily registry flag m m') : m'.sequences = m.sequences := by
  induction h with
  | same => rfl
  | add _ _ _ _ ih => exact ih

theorem row? (h : Lazily registry flag m m') : m'.row? = m.row? := row?_congr h.tables

theorem regular (h : Lazily registry flag m m') (hm : m.Regular) : m'.Regular := by
  induction h with
  | same => exact hm
  | add _ _ hrow hid ih => exact ih.of_parts rfl (ih.coherent.add hrow hid)

theorem keeps (h : Lazily registry flag m m') : m.mappings.Keeps m'.mappings := by
  induction h with
  | same => exact .refl _
  | add _ _ hrow hid ih => exact ih.trans (.add hrow hid)

/-- **An entry that is new is that of a row that shows its public id and had none.** -/
theorem entry (h : Lazily registry flag m m') {u : Uuid} {e : MappingEntry}
    (he : m'.mappings.entryById? u = some e) :
    m.mappings.entryById? u = some e ∨
      m.ShowsPublicId registry flag e.entityType e.rowKey ∧ m.mappings.idOf? e.entityType e.rowKey = none := by
  induction h with
  | same => exact .inl he
  | add h hshows hrow hid ih =>
    rw [MappingTable.entryById?_add] at he
    split at he
    next =>
      obtain rfl := Option.some.inj he
      refine .inr ⟨hshows, Option.eq_none_iff_forall_ne_some.2 fun u hu => ?_⟩
      rw [h.keeps.byRow _ _ u hu] at hrow
      cases hrow
    next => exact ih he

/-- While the flag is off no public ids are shown. -/
theorem eq_of_off (h : Lazily registry false m m') : m' = m := by
  cases h with
  | same => rfl
  | add _ hshows =>
    obtain ⟨model, -, hscheme⟩ := hshows.scheme
    exact absurd ((model.scheme_eq_publicId_iff false).1 hscheme).1 Bool.false_ne_true

/-- The entry of a row that shows its public id may be asked for. -/
theorem entryOrNew (h : Lazily registry flag m m') (hm : m.Regular) {ty : String} {pk : Int64}
    (hshows : m.ShowsPublicId registry flag ty pk) : Lazily registry flag m (m'.entryOrNew t ty pk).2 := by
  rcases heq : m'.entryOrNew t ty pk with ⟨_ | e, m''⟩
  · rw [entryOrNew_error heq]
    exact h
  · obtain ⟨mappings, rest, hget, rfl⟩ := entryOrNew_ok heq
    rcases (h.regular hm).coherent.getOrInsert_cases hget with ⟨-, rfl⟩ | ⟨hrow, hid, he, -, rfl⟩
    · exact h
    · refine h.add ?_ ?_ hid
      · rw [he]
        exact hshows
      · rw [he]
        exact hrow

end Lazily

/-! ## Rows that are found -/

/-- **A row that a global id leads to is stored**, whatever its shape. -/
theorem exists_row?_of_node {s : String} {expected : Option String} {r : Row}
    (h : m.node registry flag s expected = .ok (some r)) : ∃ ty pk, m.row? ty pk = some r := by
  have hlegacy : m.legacyNode registry s expected = .ok (some r) → ∃ ty pk, m.row? ty pk = some r := by
    intro h
    simp only [legacyNode, Except.bind_eq_ok_iff, pure, Except.pure, Except.ok.injEq] at h
    obtain ⟨_, -, _, -, model, -, _, -, pk, -, hrow⟩ := h
    exact ⟨_, pk, hrow⟩
  have hpk : m.pkNode registry s expected = .ok (some r) → ∃ ty pk, m.row? ty pk = some r := by
    intro h
    cases expected with
    | none => cases h
    | some name =>
      simp only [pkNode, Except.bind_eq_ok_iff, unless_throw_eq_ok_iff, pure, Except.pure, Except.ok.injEq] at h
      obtain ⟨model, -, -, _, -, pk, -, hrow⟩ := h
      exact ⟨_, pk, hrow⟩
  unfold node at h
  split at h
  · split at h
    · obtain ⟨_, e, _, _, -, -, -, -, -, -, hrow⟩ := (m.publicIdNode_eq_some_iff registry s expected r).1 h
      exact ⟨_, _, hrow⟩
    · cases h
  · split at h
    · exact hpk h
    · exact hlegacy h

theorem Regular.isSome_row? (hm : m.Regular) {ty : String} {pk : Int64} {r : Row} (h : m.row? ty pk = some r) :
    (m.row? r.entityType r.pk).isSome = true := by
  obtain ⟨rfl, rfl⟩ := hm.filed ty pk r h
  exact Option.isSome_of_eq_some h

end Memory

/-! ## Programs that look -/

/-- The flag is the given one, and the state has only gained entries since `m`. -/
structure World.Since (registry : Registry) (flag : Bool) (m : Memory) (w : World) : Prop where
  flag_eq : w.flag = flag
  memory : m.Lazily registry flag w.memory

/-- The program leads from such worlds to such worlds, with a result as `Q` says. -/
def Program.Looks (registry : Registry) (moments : Nat → Moment) (flag : Bool) (m : Memory) (p : Program Backend α)
    (Q : α → Prop) : Prop :=
  ∀ w : World, w.Since registry flag m →
    (w.exec registry moments p).2.Since registry flag m ∧ Q (w.exec registry moments p).1

namespace Program.Looks

variable {p : Program Backend α} {Q : α → Prop} {R : β → Prop}

theorem done {x : α} (h : Q x) : Looks registry moments flag m (.done x) Q := fun _ hw => ⟨hw, h⟩

theorem mono {Q' : α → Prop} (h : Looks registry moments flag m p Q) (hQ : ∀ x, Q x → Q' x) :
    Looks registry moments flag m p Q' := fun w hw => ⟨(h w hw).1, hQ _ (h w hw).2⟩

theorem bind {f : α → Program Backend β} (hp : Looks registry moments flag m p Q)
    (hf : ∀ x, Q x → Looks registry moments flag m (f x) R) : Looks registry moments flag m (p >>= f) R := by
  intro w hw
  obtain ⟨hsince, hQ⟩ := hp w hw
  rw [World.exec_bind]
  exact hf _ hQ _ hsince

theorem foldlM {f : α → β → Program Backend α} {xs : List β}
    (hf : ∀ x y, Looks registry moments flag m (f x y) fun _ => True) (x : α) :
    Looks registry moments flag m (xs.foldlM f x) fun _ => True := by
  induction xs generalizing x with
  | nil => exact .done trivial
  | cons y xs ih =>
    rw [List.foldlM_cons]
    exact (hf x y).bind fun x' _ => ih x'

end Program.Looks

/-- The action leads from such worlds to such worlds, and if it does not fail, its result is as `Q` says. -/
def Action.Looks (registry : Registry) (moments : Nat → Moment) (flag : Bool) (m : Memory) (a : Action α)
    (Q : α → Prop) : Prop :=
  Program.Looks registry moments flag m a.run fun r => ∀ x, r = .ok x → Q x

namespace Action.Looks

variable {a : Action α} {Q : α → Prop} {R : β → Prop}

theorem since (h : Looks registry moments flag m a Q) (hw : w.Since registry flag m) :
    (World.run registry moments a w).2.Since registry flag m := (h w hw).1

theorem pure {x : α} (h : Q x) : Looks registry moments flag m (Pure.pure x) Q := by
  refine fun w hw => ⟨hw, ?_⟩
  rintro _ ⟨⟩
  exact h

theorem throw (e : IdError) : Looks registry moments flag m (MonadExcept.throw e : Action α) Q :=
  fun _ hw => ⟨hw, nofun⟩

theorem result (r : IdResult α) : Looks registry moments flag m (liftM r) fun x => r = .ok x :=
  fun _ hw => ⟨hw, fun _ hx => hx⟩

/-- An action that only looks at the state. -/
theorem reads {f : Memory → Bool → IdResult α} (h : Reads a f)
    (hf : ∀ m' x, m.Lazily registry flag m' → f m' flag = .ok x → Q x) : Looks registry moments flag m a Q := by
  intro w hw
  rw [← World.run_eq]
  obtain ⟨n, hn⟩ := h registry moments w
  rw [hn]
  exact ⟨⟨hw.flag_eq, hw.memory⟩, fun x hx => hf w.memory x hw.memory (hw.flag_eq ▸ hx)⟩

theorem bind {k : α → Action β} (ha : Looks registry moments flag m a Q)
    (hk : ∀ x, Q x → Looks registry moments flag m (k x) R) : Looks registry moments flag m (a >>= k) R := by
  intro w hw
  obtain ⟨hsince, hQ⟩ := ha w hw
  rw [World.exec_run_bind]
  rcases heq : World.exec registry moments a.run w with ⟨e | x, w'⟩
  · rw [heq] at hsince
    exact ⟨hsince, nofun⟩
  · rw [heq] at hsince hQ
    exact hk x (hQ x rfl) w' hsince

theorem mapM {k : β → Action α} {xs : List β} (hk : ∀ x ∈ xs, Looks registry moments flag m (k x) fun _ => True) :
    Looks registry moments flag m (xs.mapM k) fun _ => True := by
  induction xs with
  | nil => exact .pure trivial
  | cons x xs ih =>
    rw [List.mapM_cons]
    refine (hk x List.mem_cons_self).bind fun _ _ => ?_
    exact (ih fun y hy => hk y (List.mem_cons_of_mem _ hy)).bind fun _ _ => .pure trivial

theorem foldlM {k : α → β → Action α} {xs : List β} (hk : ∀ x y, Looks registry moments flag m (k x y) fun _ => True)
    (x : α) : Looks registry moments flag m (xs.foldlM k x) fun _ => True := by
  induction xs generalizing x with
  | nil => exact .pure trivial
  | cons y xs ih =>
    rw [List.foldlM_cons]
    exact (hk x y).bind fun x' _ => ih x'

/-- A call of the store. -/
theorem call {c : BackendCall} {read : c.Reply → IdResult α}
    (h : ∀ w : World, w.Since registry flag m →
      m.Lazily registry flag (w.answer registry moments c).2.memory ∧
        ∀ x, read (w.answer registry moments c).1 = .ok x → Q x) :
    Looks registry moments flag m (ExceptT.mk (.call (I := Backend) c fun r => .done (read r))) Q :=
  fun w hw => ⟨⟨hw.flag_eq, (h w hw).1⟩, (h w hw).2⟩

end Action.Looks

open RowIdentity.Action (Looks)

/-! ## Resolvers -/

/-- The row is stored, as it was or not. -/
def Memory.Stores (m : Memory) (r : Row) : Prop := (m.row? r.entityType r.pk).isSome = true

theorem looks_row (hm : m.Regular) (ty : String) (pk : Int64) :
    Looks registry moments flag m (liftM (Store.row ty pk)) fun r? => ∀ r ∈ r?, m.Stores r := by
  refine .reads (.row ty pk) ?_
  rintro m' _ h ⟨⟩ r hr
  rw [h.row?] at hr
  exact hm.isSome_row? hr

theorem looks_currentScheme (model : Model) :
    Looks registry moments flag m (currentScheme model) fun scheme => scheme = model.scheme flag := by
  have hreads : Action.Reads (currentScheme model) fun _ flag => .ok (model.scheme flag) :=
    fun _ _ w => ⟨w.calls + 1, rfl⟩
  refine .reads hreads ?_
  rintro _ _ - ⟨⟩
  rfl

/-- **Under the Public-ID scheme the row of which the id is asked for may get an entry.** -/
theorem looks_idOf (hm : m.Regular) {model : Model} {r : Row} (hmodel : registry.get? r.entityType = some model)
    (hr : m.Stores r) : Looks registry moments flag m ((model.scheme flag).idOf r) fun _ => True := by
  cases hscheme : model.scheme flag with
  | legacy => exact .pure trivial
  | pk => exact .pure trivial
  | publicId =>
    have hentry : Looks registry moments flag m
        (liftM (Store.entryOrNew r.entityType r.pk) : Action MappingEntry) fun _ => True :=
      .call fun w hw => ⟨hw.memory.entryOrNew hm ⟨hr, model, hmodel, hscheme⟩, fun _ _ => trivial⟩
    exact hentry.bind fun _ _ => .pure trivial

theorem looks_externalId (hm : m.Regular) {r : Row} (hr : m.Stores r) :
    Looks registry moments flag m (externalId registry r) fun _ => True := by
  refine (Looks.result _).bind fun model hmodel => ?_
  refine (looks_currentScheme model).bind ?_
  rintro _ rfl
  exact looks_idOf hm ((registry.model_eq_ok_iff _ _).1 hmodel) hr

theorem looks_globalId (hm : m.Regular) {r : Row} (hr : m.Stores r) :
    Looks registry moments flag m (globalId registry r) fun _ => True := by
  refine (Looks.result _).bind fun model hmodel => ?_
  split
  · refine (looks_currentScheme model).bind ?_
    rintro _ rfl
    exact (looks_idOf hm ((registry.model_eq_ok_iff _ _).1 hmodel) hr).bind fun _ _ => .pure trivial
  · exact .throw _

theorem looks_resolveNode (hm : m.Regular) (s : String) (expected : Option String) :
    Looks registry moments flag m (resolveNode registry s expected) fun r? => ∀ r ∈ r?, m.Stores r := by
  refine .reads (reads_resolveNode registry s expected) ?_
  rintro m' _ h hnode r rfl
  obtain ⟨ty, pk, hrow⟩ := Memory.exists_row?_of_node hnode
  rw [h.row?] at hrow
  exact hm.isSome_row? hrow

theorem looks_resolveLookup (model : Model) (raw : String) :
    Looks registry moments flag m (resolveLookup model raw) fun _ => True :=
  .reads (reads_resolveLookup model raw) fun _ _ _ _ => trivial

/-! ## Row collections -/

theorem looks_getRow (hm : m.Regular) (plural raw : String) :
    Looks registry moments flag m (getRow registry plural raw) fun _ => True := by
  refine (Looks.result _).bind fun model _ => ?_
  refine (looks_resolveLookup model raw).bind fun pk _ => ?_
  refine (looks_row hm _ _).bind fun r? hr => ?_
  cases r? with
  | none => exact .throw _
  | some r => exact (looks_externalId hm (hr r rfl)).bind fun _ _ => .pure trivial

theorem looks_fetch (hm : m.Regular) (q : RowQuery) :
    Looks registry moments flag m (liftM (Store.fetch q)) fun found => ∀ a ∈ found, m.Stores a.row := by
  refine .call fun w hw => ⟨hw.memory, fun found hfound a ha => ?_⟩
  change (w.memory.fetch q).mapError Fault.toError = .ok found at hfound
  cases hfetch : w.memory.fetch q with
  | error f =>
    rw [hfetch] at hfound
    cases hfound
  | ok rows =>
    rw [hfetch] at hfound
    cases hfound
    have hrow := Memory.row?_of_mem_select (hw.memory.regular hm) (Memory.mem_select_of_mem_fetch hfetch ha)
    rw [hw.memory.row?] at hrow
    exact Option.isSome_of_eq_some hrow

theorem looks_countRows (q : RowQuery) :
    Looks registry moments flag m (liftM (Store.countRows q) : Action Nat) fun _ => True :=
  .call fun _ hw => ⟨hw.memory, fun _ _ => trivial⟩

theorem looks_listQuery (model : Model) (params : ListParams) :
    Looks registry moments flag m (listQuery model params) fun _ => True := by
  refine (show Looks registry moments flag m (annotateQuery model (.all model.entityType)) fun _ => True from
    (looks_currentScheme model).bind fun _ _ => .pure trivial).bind fun q _ => ?_
  have hcheck (q : RowQuery) (raw : String) : Looks registry moments flag m
      (if q.isValid then pure q else throw (.invalidFormat raw q.complaint) : Action RowQuery) fun _ => True := by
    split
    · exact .pure trivial
    · exact .throw _
  cases params.publicId with
  | some raw =>
    refine (show Looks registry moments flag m (some <$> liftM (parsePublicId raw) : Action (Option Uuid))
      fun _ => True from ?_).bind fun publicId _ => hcheck _ _
    rw [map_eq_pure_bind]
    exact (Looks.result _).bind fun _ _ => .pure trivial
  | none => exact (Looks.pure (Q := fun _ => True) trivial).bind fun publicId _ => hcheck _ _

theorem looks_pageRows (hm : m.Regular) (q : RowQuery) (page limit total : Nat) :
    Looks registry moments flag m (pageRows q page limit total) fun found => ∀ a ∈ found, m.Stores a.row := by
  rcases pageRows_cases q page limit total with ⟨offset, hfetch⟩ | hnone
  · exact hfetch ▸ looks_fetch hm _
  · exact hnone ▸ .pure fun _ h => nomatch h

theorem looks_listedId (hm : m.Regular) {a : AnnotatedRow} (ha : m.Stores a.row) :
    Looks registry moments flag m (listedId registry a) fun _ => True := by
  unfold listedId
  split
  · exact .pure trivial
  · exact looks_externalId hm ha

theorem looks_listRows (hm : m.Regular) (plural : String) (params : ListParams) :
    Looks registry moments flag m (listRows registry plural params) fun _ => True := by
  refine (Looks.result _).bind fun model _ => ?_
  refine (looks_listQuery model params).bind fun q _ => ?_
  refine (looks_countRows q).bind fun total _ => ?_
  refine (looks_pageRows hm q _ _ total).bind fun found hfound => ?_
  refine (Looks.mapM fun a ha => ?_).bind fun _ _ => .pure trivial
  exact (looks_listedId hm (hfound a ha)).bind fun _ _ => .pure trivial

/-! ## Graph queries -/

theorem looks_leafValue (hm : m.Regular) (model : Model) {r : Row} (hr : m.Stores r) (leaf : Graph.Leaf) :
    Looks registry moments flag m (Graph.leafValue registry model r leaf) fun _ => True := by
  unfold Graph.leafValue
  split
  · exact (looks_globalId hm hr).bind fun _ _ => .pure trivial
  · split
    · exact .pure trivial
    · split
      · exact .pure trivial
      · exact .pure trivial

theorem looks_objectFields (hm : m.Regular) (model : Model) {r : Row} (hr : m.Stores r) (leaves : List Graph.Leaf) :
    Looks registry moments flag m (Graph.objectFields registry model r leaves) fun _ => True := by
  refine Looks.foldlM (fun done leaf => ?_) []
  exact (looks_leafValue hm model hr leaf).bind fun _ _ => .pure trivial

theorem looks_rootRow (hm : m.Regular) (f : Graph.Field) (id : String) :
    Looks registry moments flag m (Graph.rootRow registry f id) fun r? => ∀ r ∈ r?, m.Stores r := by
  unfold Graph.rootRow
  split
  · exact looks_resolveNode hm _ _
  · split
    · exact looks_resolveNode hm _ _
    · exact .throw _

theorem looks_rootValue (hm : m.Regular) (vars : Graph.Variables) (f : Graph.Field) :
    Looks registry moments flag m (Graph.rootValue registry vars f) fun _ => True := by
  refine (Looks.result _).bind fun id _ => ?_
  refine (looks_rootRow hm f id).bind fun r? hr => ?_
  cases r? with
  | none => exact .pure trivial
  | some r =>
    refine (Looks.result _).bind fun model _ => ?_
    exact (looks_objectFields hm model (hr r rfl) _).bind fun _ _ => .pure trivial

/-- **A field that fails stops none of the others**, and each of them only looks. -/
theorem looks_executeFields (hm : m.Regular) (vars : Graph.Variables) (fields : List Graph.Field) :
    Program.Looks registry moments flag m (Graph.executeFields registry vars fields) fun _ => True := by
  refine Program.Looks.foldlM (fun a f => ?_) _
  exact ((looks_rootValue hm vars f).mono fun _ _ => trivial).bind fun _ _ => .done trivial

theorem looks_execute (hm : m.Regular) (vars : Graph.Variables) (text : String) (operation : Option String) :
    Program.Looks registry moments flag m (Graph.execute registry vars text operation) fun _ => True := by
  unfold Graph.execute
  split
  · exact .done trivial
  · exact (looks_executeFields hm vars _).bind fun _ _ => .done trivial

/-! ## Resolutions that change nothing -/

/-- The action leaves the state as it is, whatever its result. -/
def Action.Leaves (registry : Registry) (moments : Nat → Moment) (a : Action α) : Prop :=
  Moves registry moments (fun m m' => m' = m) a

namespace Action.Leaves

theorem of_reads {a : Action α} {f : Memory → Bool → IdResult α} (h : Reads a f) : Leaves registry moments a :=
  Moves.of_reads (fun _ => rfl) h

theorem bind {a : Action α} {k : α → Action β} (ha : Leaves registry moments a)
    (hk : ∀ x, Leaves registry moments (k x)) : Leaves registry moments (a >>= k) :=
  Moves.bind (fun _ _ _ h h' => h'.trans h) ha hk

end Action.Leaves

open RowIdentity.Action (Leaves)

theorem leaves_nodeKey (scheme : IdScheme) (id : String) (expected : Option String) :
    Leaves registry moments (scheme.nodeKey registry id expected) := by
  cases scheme with
  | legacy =>
    refine (Leaves.of_reads (.result _)).bind fun ⟨typeName, key⟩ => ?_
    refine (Leaves.of_reads (.result _)).bind fun _ => ?_
    exact .of_reads (.result _)
  | pk => exact .of_reads (.result _)
  | publicId =>
    refine (Leaves.of_reads (.result _)).bind fun publicId => ?_
    refine (Leaves.of_reads (.entryById _)).bind fun entry? => ?_
    cases entry? with
    | none =>
      cases expected with
      | none => exact (Leaves.of_reads (.pure _)).bind fun _ => .of_reads (.throw _)
      | some name =>
        simp only [map_eq_pure_bind, bind_assoc]
        refine (Leaves.of_reads (.result _)).bind fun model => ?_
        exact (Leaves.of_reads (.pure _)).bind fun _ => .of_reads (.throw _)
    | some entry =>
      simp only
      split
      · refine (Leaves.of_reads (.result _)).bind fun model => ?_
        exact (Leaves.of_reads (.result _)).bind fun _ => .of_reads (.pure _)
      · exact .of_reads (.pure _)

theorem leaves_keyOfGlobalId (id : String) (expected : Option String) :
    Leaves registry moments (keyOfGlobalId registry id expected) := by
  unfold keyOfGlobalId
  by_cases hc : isCanonicalV4 id = true
  · rw [if_pos hc]
    exact (Leaves.of_reads .publicIdEnabled).bind fun _ => leaves_nodeKey _ _ _
  · rw [if_neg hc]
    exact (Leaves.of_reads (.pure _)).bind fun _ => leaves_nodeKey _ _ _

/-! ## Requests that read -/

/-- What is asked of a database without the intent to change it. -/
inductive ReadRequest where
  | getRow (plural raw : String)
  | listRows (plural : String) (params : ListParams)
  | query (vars : Graph.Variables) (text : String) (operation : Option String)
  | resolveNode (id : String) (expected : Option String)
  | keyOfGlobalId (id : String) (expected : Option String)
  | resolveLookup (model : Model) (raw : String)
  | resolveId (id : String) (model : Model)
  | globalId (r : Row)
  | externalId (r : Row)

namespace ReadRequest

/-- The world after a request, however it ends. -/
def after (registry : Registry) (moments : Nat → Moment) (w : World) : ReadRequest → World
  | getRow plural raw => (w.run registry moments (RowIdentity.getRow registry plural raw)).2
  | listRows plural params => (w.run registry moments (RowIdentity.listRows registry plural params)).2
  | query vars text operation => (w.exec registry moments (Graph.execute registry vars text operation)).2
  | resolveNode id expected => (w.run registry moments (RowIdentity.resolveNode registry id expected)).2
  | keyOfGlobalId id expected => (w.run registry moments (RowIdentity.keyOfGlobalId registry id expected)).2
  | resolveLookup model raw => (w.run registry moments (RowIdentity.resolveLookup model raw)).2
  | resolveId id model => (w.run registry moments (RowIdentity.resolveId id model)).2
  | globalId r => (w.run registry moments (RowIdentity.globalId registry r)).2
  | externalId r => (w.run registry moments (RowIdentity.externalId registry r)).2

/-- The row whose id is asked for is stored. -/
def Stored (m : Memory) : ReadRequest → Prop
  | globalId r | externalId r => m.Stores r
  | _ => True

/-- The request goes from an id to a row or a key. -/
def Resolves : ReadRequest → Prop
  | resolveNode .. | keyOfGlobalId .. | resolveLookup .. | resolveId .. => True
  | _ => False

end ReadRequest

/-- From `m` to `m'` nothing has changed but that rows which show their public ids have got entries. -/
structure Memory.OnlyGains (registry : Registry) (flag : Bool) (m m' : Memory) : Prop where
  tables : m'.tables = m.tables
  sequences : m'.sequences = m.sequences
  /-- Every entry is found as before. -/
  kept : m.mappings.Keeps m'.mappings
  /-- An entry that was not there is that of a stored row that had none, of a model under the Public-ID scheme. -/
  gained : ∀ u e, m'.mappings.entryById? u = some e → m.mappings.entryById? u = some e ∨
    (∃ r, m.row? e.entityType e.rowKey = some r) ∧ m.mappings.idOf? e.entityType e.rowKey = none ∧
      ∃ model, registry.get? e.entityType = some model ∧ model.scheme flag = .publicId
  /-- While the flag is off nothing changes at all. -/
  off : flag = false → m' = m

theorem Memory.Lazily.onlyGains (h : m.Lazily registry flag m') : m.OnlyGains registry flag m' where
  tables := h.tables
  sequences := h.sequences
  kept := h.keeps
  gained u e he := (h.entry he).imp_right fun ⟨hshows, hrow⟩ =>
    ⟨Option.isSome_iff_exists.1 hshows.stored, hrow, hshows.scheme⟩
  off hflag := by
    subst hflag
    exact h.eq_of_off

theorem ReadRequest.leaves (request : ReadRequest) (hresolves : request.Resolves) (w : World) :
    (request.after registry moments w).memory = w.memory := by
  cases request with
  | resolveNode id expected => exact Leaves.of_reads (reads_resolveNode registry id expected) w
  | keyOfGlobalId id expected => exact leaves_keyOfGlobalId id expected w
  | resolveLookup model raw => exact Leaves.of_reads (reads_resolveLookup model raw) w
  | resolveId id model => exact Leaves.of_reads (reads_resolveId id model) w
  | _ => cases hresolves

theorem ReadRequest.lazily (request : ReadRequest) (hw : w.memory.Regular) (hstored : request.Stored w.memory) :
    w.memory.Lazily registry w.flag (request.after registry moments w).memory := by
  have hnow : w.Since registry w.flag w.memory := ⟨rfl, .same⟩
  cases request with
  | getRow plural raw => exact ((looks_getRow hw plural raw).since hnow).memory
  | listRows plural params => exact ((looks_listRows hw plural params).since hnow).memory
  | query vars text operation => exact (looks_execute hw vars text operation w hnow).1.memory
  | globalId r => exact ((looks_globalId hw hstored).since hnow).memory
  | externalId r => exact ((looks_externalId hw hstored).since hnow).memory
  | resolveNode id expected => exact (leaves (.resolveNode id expected) trivial w).symm ▸ .same
  | keyOfGlobalId id expected => exact (leaves (.keyOfGlobalId id expected) trivial w).symm ▸ .same
  | resolveLookup model raw => exact (leaves (.resolveLookup model raw) trivial w).symm ▸ .same
  | resolveId id model => exact (leaves (.resolveId id model) trivial w).symm ▸ .same

/-- **Reads change nothing but to make entries**, and those that go from an id to a row or a key change nothing. -/
theorem readRequest_readOnly (registry : Registry) (moments : Nat → Moment) (w : World)
    (hw : Memory.Reachable registry w.memory) (request : ReadRequest) (hstored : request.Stored w.memory) :
    w.memory.OnlyGains registry w.flag (request.after registry moments w).memory ∧
      (request.Resolves → (request.after registry moments w).memory = w.memory) :=
  ⟨(request.lazily hw.regular hstored).onlyGains, fun hresolves => request.leaves hresolves w⟩

/-- The first of two widgets gets an entry when its id is asked for, and nothing else changes. -/
theorem readRequest_readOnly_widget :
    World.loaded.memory.OnlyGains .widgets true
        ((ReadRequest.externalId .widget).after .widgets .counted World.loaded).memory ∧
      ((ReadRequest.externalId .widget).after .widgets .counted World.loaded).memory.mappings.size = 1 :=
  ⟨(readRequest_readOnly .widgets .counted World.loaded Memory.reachable_loaded (.externalId .widget) rfl).1, rfl⟩

end RowIdentity
