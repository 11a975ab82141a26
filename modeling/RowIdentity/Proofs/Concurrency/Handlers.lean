import Mathlib.Data.Set.Basic
import RowIdentity.Backfill
import RowIdentity.Graph.Execution
import RowIdentity.Http.Handler
import RowIdentity.Proofs.Concurrency.Told

/-!
# What handlers know when they make entries

A handler makes an entry for a row some calls after it was told that the row is stored. What it was told was true then,
and may no longer be when the entry is made.

* `Program.Maps`, `Action.Maps` — a program makes entries only for rows that it knows to be stored, as it has been told
  of them and has not deleted them since; with one rule for each way to build a program;
* `maps_resolveNode`, `maps_externalId`, … — the parts of the handlers;
* `maps_getRow`, `maps_listRows`, `maps_createRow`, `maps_deleteRow`, `maps_execute`, `maps_backfillModel` — **no
  handler or job makes an entry for a row that it does not know to be stored**.
-/

namespace RowIdentity

/-- Keys of rows. -/
abbrev Keys := Set (String × Int64)

/-- What a program knows to be stored after a call: not what it has deleted, and all that it is told of. -/
def Keys.after (K : Keys) (c : BackendCall) (r : c.Reply) : Keys :=
  {k | k ∈ K ∧ k ∉ BackendCall.deletes c ∨ k ∈ BackendCall.told c r}

/-- A program that knows the given rows to be stored makes entries only for rows that it knows to be stored. `Q` holds
of its result and of all it knows in the end. -/
def Program.Maps {α : Type} : Program Backend α → Keys → (α → Keys → Prop) → Prop
  | done a, K, Q => Q a K
  | call c next, K, Q => (∀ k ∈ BackendCall.made c, k ∈ K) ∧ ∀ r, (next r).Maps (K.after c r) Q

/-- The same of an action that deletes nothing it knows of; `Q` is about what it ends with if it does not fail. -/
def Action.Maps {α ε : Type} (a : ExceptT ε (Program Backend) α) (K : Keys) (Q : α → Keys → Prop) : Prop :=
  Program.Maps a.run K fun r K' => K ⊆ K' ∧ ∀ x, r = .ok x → Q x K'

theorem Keys.after_mono {K K' : Keys} (h : K ⊆ K') (c : BackendCall) (r : c.Reply) : K.after c r ⊆ K'.after c r :=
  fun _ hk => hk.imp_left fun hk => ⟨h hk.1, hk.2⟩

theorem Keys.subset_after (K : Keys) {c : BackendCall} (hc : c.deletes = []) (r : c.Reply) : K ⊆ K.after c r :=
  fun _ hk => .inl ⟨hk, hc ▸ List.not_mem_nil⟩

namespace Program.Maps

variable {α β : Type} {p : Program Backend α} {K K' : Keys} {Q Q' : α → Keys → Prop}

/-- A program may know more beforehand. -/
theorem mono (h : p.Maps K fun _ _ => True) (hK : K ⊆ K') : p.Maps K' fun _ _ => True := by
  induction p generalizing K K' with
  | done a => trivial
  | call c next ih => exact ⟨fun k hk => hK (h.1 k hk), fun r => ih r (h.2 r) (Keys.after_mono hK c r)⟩

theorem imp (h : p.Maps K Q) (hQ : ∀ a K', Q a K' → Q' a K') : p.Maps K Q' := by
  induction p generalizing K with
  | done a => exact hQ a K h
  | call c next ih => exact ⟨h.1, fun r => ih r (h.2 r)⟩

theorem bind {f : α → Program Backend β} {R : β → Keys → Prop} (h : p.Maps K Q)
    (hf : ∀ x K', Q x K' → (f x).Maps K' R) : (p.bind f).Maps K R := by
  induction p generalizing K with
  | done a => exact hf a K h
  | call c next ih => exact ⟨h.1, fun r => ih r (h.2 r)⟩

/-- Programs one after another, none of which needs to know of any row. -/
theorem foldlM {f : β → α → Program Backend β} {xs : List α} (hf : ∀ b x K, (f b x).Maps K fun _ _ => True) (b : β) :
    Maps (xs.foldlM f b) K fun _ _ => True := by
  induction xs generalizing b K with
  | nil => trivial
  | cons x xs ih =>
    rw [List.foldlM_cons]
    exact Maps.bind (hf b x K) fun b' _ _ => ih b'

end Program.Maps

namespace Action.Maps

variable {α β ε : Type} {a : ExceptT ε (Program Backend) α} {K : Keys} {Q : α → Keys → Prop} {R : β → Keys → Prop}

theorem pure {x : α} (h : Q x K) : Maps (Pure.pure x : ExceptT ε (Program Backend) α) K Q := by
  refine ⟨Set.Subset.refl K, ?_⟩
  rintro _ ⟨⟩
  exact h

theorem throw (e : ε) : Maps (MonadExcept.throw e : ExceptT ε (Program Backend) α) K Q := ⟨Set.Subset.refl K, nofun⟩

theorem result (r : IdResult α) : Maps (liftM r : Action α) K fun _ _ => True := ⟨Set.Subset.refl K, fun _ _ => trivial⟩

/-- A single call, with what its reply is read as. -/
theorem call {c : BackendCall} {read : c.Reply → Except ε α} (hmade : ∀ k ∈ c.made, k ∈ K) (hc : c.deletes = [])
    (h : ∀ r x, read r = .ok x → Q x (K.after c r)) :
    Maps (ExceptT.mk (.call (I := Backend) c fun r => .done (read r))) K Q :=
  ⟨hmade, fun r => ⟨K.subset_after hc r, h r⟩⟩

/-- A call that makes no entries and whose reply is of no account. -/
theorem ask {c : BackendCall} {read : c.Reply → Except ε α} (hmade : c.made = []) (hc : c.deletes = []) :
    Maps (ExceptT.mk (.call (I := Backend) c fun r => .done (read r))) K fun _ _ => True :=
  .call (hmade ▸ nofun) hc fun _ _ _ => trivial

theorem bind {f : α → ExceptT ε (Program Backend) β} (h : Maps a K Q)
    (hf : ∀ x K', K ⊆ K' → Q x K' → Maps (f x) K' R) : Maps (a >>= f) K R := by
  unfold Maps
  rw [ExceptT.run_bind]
  refine Program.Maps.bind h ?_
  rintro (e | x) K' ⟨hK, hr⟩
  · exact ⟨hK, nofun⟩
  · exact (hf x K' hK (hr x rfl)).imp fun _ _ h => ⟨hK.trans h.1, h.2⟩

/-- An action that goes on as a program that may delete rows. -/
theorem bindProgram {f : α → ExceptT ε (Program Backend) β} (h : Maps a K Q)
    (hf : ∀ x K', Q x K' → Program.Maps (f x).run K' fun _ _ => True) :
    Program.Maps (a >>= f).run K fun _ _ => True := by
  rw [ExceptT.run_bind]
  refine Program.Maps.bind h ?_
  rintro (e | x) K' ⟨-, hr⟩
  · trivial
  · exact hf x K' (hr x rfl)

theorem tryCatch {handle : ε → ExceptT ε (Program Backend) α} (h : Maps a K Q)
    (hh : ∀ e K', K ⊆ K' → Maps (handle e) K' Q) : Maps (MonadExcept.tryCatch a handle) K Q := by
  unfold Maps
  rw [ExceptT.run_tryCatch]
  refine Program.Maps.bind h ?_
  rintro (e | x) K' ⟨hK, hr⟩
  · exact (hh e K' hK).imp fun _ _ h => ⟨hK.trans h.1, h.2⟩
  · exact ⟨hK, hr⟩

/-- A program whose failure is looked at rather than passed on. -/
theorem lift {ε' : Type} (h : Maps a K Q) :
    Maps (ExceptT.lift a.run : ExceptT ε' (Program Backend) (Except ε α)) K fun _ _ => True := by
  unfold Maps
  rw [ExceptT.run_lift, map_eq_pure_bind]
  exact Program.Maps.bind h fun _ _ h => ⟨h.1, fun _ _ => trivial⟩

theorem mapM {f : β → ExceptT ε (Program Backend) α} {xs : List β}
    (hf : ∀ x ∈ xs, ∀ K', K ⊆ K' → Maps (f x) K' fun _ _ => True) : Maps (xs.mapM f) K fun _ _ => True := by
  induction xs generalizing K with
  | nil => exact .pure trivial
  | cons x xs ih =>
    rw [List.mapM_cons]
    refine (hf x List.mem_cons_self K (Set.Subset.refl K)).bind fun y K₁ h₁ _ => ?_
    refine (ih fun z hz K₂ h₂ => hf z (List.mem_cons_of_mem _ hz) K₂ (h₁.trans h₂)).bind fun ys K₂ _ _ => ?_
    exact .pure trivial

theorem foldlM {f : β → α → ExceptT ε (Program Backend) β} {xs : List α}
    (hf : ∀ b x K', K ⊆ K' → Maps (f b x) K' fun _ _ => True) (b : β) : Maps (xs.foldlM f b) K fun _ _ => True := by
  induction xs generalizing b K with
  | nil => exact .pure trivial
  | cons x xs ih =>
    rw [List.foldlM_cons]
    refine (hf b x K (Set.Subset.refl K)).bind fun b' K' hK _ => ?_
    exact ih (fun b x K₂ h₂ => hf b x K₂ (hK.trans h₂)) b'

end Action.Maps

/-! ## Calls -/

section

variable {registry : Registry} {K : Keys} {ty raw id plural : String} {pk : Int64} {model : Model} {r : Row}
  {expected : Option String}

open RowIdentity.Action (Maps)

/-- The row of a reply has been told of. -/
def Tells (r? : Option Row) (K : Keys) : Prop := ∀ r, r? = some r → r.key ∈ K

theorem maps_publicIdEnabled : Maps publicIdEnabled K fun _ _ => True := .ask rfl rfl

theorem maps_row : Maps (liftM (Store.row ty pk) : Action (Option Row)) K Tells := by
  refine .call nofun rfl fun reply x hx => ?_
  rintro r rfl
  cases reply with
  | error f => cases hx
  | ok r? =>
    obtain rfl : r? = some r := Except.ok.inj hx
    exact .inr List.mem_cons_self

theorem maps_entryById (u : Uuid) : Maps (liftM (Store.entryById u) : Action (Option MappingEntry)) K fun _ _ => True :=
  .ask rfl rfl

theorem maps_entryOrNew (h : (ty, pk) ∈ K) :
    Maps (liftM (Store.entryOrNew ty pk) : Action MappingEntry) K fun _ _ => True := by
  refine .call (fun k hk => ?_) rfl fun _ _ _ => trivial
  rwa [List.mem_singleton.1 hk]

theorem maps_fetch (q : RowQuery) :
    Maps (liftM (Store.fetch q) : Action (List AnnotatedRow)) K fun found K' => ∀ a ∈ found, a.row.key ∈ K' := by
  refine .call nofun rfl fun reply found hx a ha => ?_
  cases reply with
  | error f => cases hx
  | ok found' =>
    obtain rfl : found' = found := Except.ok.inj hx
    exact .inr (List.mem_map_of_mem (List.mem_map_of_mem ha))

theorem maps_create (data : Json) : Maps (liftM (Store.create ty data) : Action Row) K fun r K' => r.key ∈ K' := by
  refine .call nofun rfl fun reply r hx => ?_
  cases reply with
  | error f => cases hx
  | ok r' =>
    obtain rfl : r' = r := Except.ok.inj hx
    exact .inr List.mem_cons_self

/-! ## Ids -/

theorem maps_currentScheme : Maps (currentScheme model) K fun _ _ => True :=
  maps_publicIdEnabled.bind fun _ _ _ _ => .pure trivial

theorem maps_idOf (scheme : IdScheme) (h : r.key ∈ K) : Maps (scheme.idOf r) K fun _ _ => True := by
  cases scheme with
  | legacy => exact .pure trivial
  | pk => exact .pure trivial
  | publicId => exact (maps_entryOrNew h).bind fun _ _ _ _ => .pure trivial

theorem maps_externalId (h : r.key ∈ K) : Maps (externalId registry r) K fun _ _ => True :=
  (Action.Maps.result _).bind fun _ _ h₁ _ => maps_currentScheme.bind fun scheme _ h₂ _ =>
    maps_idOf scheme (h₂ (h₁ h))

theorem maps_globalId (h : r.key ∈ K) : Maps (globalId registry r) K fun _ _ => True := by
  refine (Action.Maps.result _).bind fun model K₁ h₁ _ => ?_
  split
  · refine maps_currentScheme.bind fun scheme K₂ h₂ _ => ?_
    exact (maps_idOf scheme (h₂ (h₁ h))).bind fun _ _ _ _ => .pure trivial
  · exact .throw _

/-! ## Nodes and look-ups -/

theorem maps_legacyNode : Maps (legacyNode registry id expected) K Tells := by
  refine (Action.Maps.result _).bind ?_
  rintro ⟨typeName, key⟩ K₁ - -
  refine (Action.Maps.result _).bind fun _ K₂ _ _ => ?_
  refine (Action.Maps.result _).bind fun model K₃ _ _ => ?_
  refine (Action.Maps.result _).bind fun _ K₄ _ _ => ?_
  exact (Action.Maps.result _).bind fun _ _ _ _ => maps_row

theorem maps_pkNode : Maps (pkNode registry id expected) K Tells := by
  unfold pkNode
  split
  next =>
    refine (Action.Maps.result _).bind fun model K₁ _ _ => ?_
    split
    · exact (Action.Maps.throw (Q := fun _ _ => False) _).bind fun _ _ _ h => h.elim
    · refine (Action.Maps.result _).bind fun _ K₃ _ _ => ?_
      exact (Action.Maps.result _).bind fun _ _ _ _ => maps_row
  next => exact .throw _

theorem maps_publicIdNode : Maps (publicIdNode registry id expected) K Tells := by
  refine (Action.Maps.result _).bind fun u K₁ _ _ => ?_
  refine (maps_entryById u).bind fun e? K₂ _ _ => ?_
  split
  next e =>
    refine (Action.Maps.result _).bind fun model K₃ _ _ => ?_
    split
    · exact (Action.Maps.throw (Q := fun _ _ => False) _).bind fun _ _ _ h => h.elim
    · refine (Action.Maps.result _).bind fun _ K₅ _ _ => ?_
      exact (Action.Maps.result _).bind fun _ _ _ _ => maps_row
  next => exact .pure nofun

theorem maps_legacyNodeAtLast : Maps (legacyNodeAtLast registry id expected) K Tells := by
  refine maps_legacyNode.tryCatch fun e K₁ _ => ?_
  split
  · split
    · refine maps_publicIdEnabled.bind fun on K₂ _ _ => ?_
      split
      · exact .pure nofun
      · exact .throw _
    · exact .throw _
  · exact .throw _

theorem maps_resolveOtherNode : Maps (resolveOtherNode registry id expected) K Tells := by
  unfold resolveOtherNode
  split
  · exact maps_pkNode
  · exact maps_legacyNodeAtLast

/-- A node is a row that was read. -/
theorem maps_resolveNode : Maps (resolveNode registry id expected) K Tells := by
  unfold resolveNode
  split
  · refine maps_publicIdEnabled.bind fun on K₁ _ _ => ?_
    split
    · refine maps_publicIdNode.bind fun r? K₂ _ htold => ?_
      split
      next r => exact .pure htold
      next => exact maps_resolveOtherNode
    · exact maps_resolveOtherNode
  · exact maps_resolveOtherNode

theorem maps_keyOf (scheme : IdScheme) (model? : Option Model) : Maps (scheme.keyOf id model?) K fun _ _ => True := by
  cases scheme with
  | legacy =>
    simp only [IdScheme.keyOf]
    split
    · exact .result _
    · refine (Action.Maps.result _).bind ?_
      rintro ⟨typeName, key⟩ K₁ - -
      split
      · split
        · exact (Action.Maps.throw (Q := fun _ _ => False) _).bind fun _ _ _ h => h.elim
        · exact .result _
      · exact .result _
  | pk => exact .result _
  | publicId =>
    refine (Action.Maps.result _).bind fun u K₁ _ _ => ?_
    refine (maps_entryById u).bind fun e? K₂ _ _ => ?_
    split
    · split
      · split
        · exact (Action.Maps.throw (Q := fun _ _ => False) _).bind fun _ _ _ h => h.elim
        · exact .pure trivial
      · exact .pure trivial
    · exact .throw _

theorem maps_resolveLookup : Maps (resolveLookup model raw) K fun _ _ => True := by
  refine maps_currentScheme.bind fun scheme K₁ _ _ => ?_
  have hkey : ∀ (isPublic : Bool) K₂, Maps (if isPublic then IdScheme.publicId.keyOf raw (some model)
      else if isNumeric raw then
        if scheme = .publicId then throw (.typeMismatch model.entityType "a numeric primary key")
        else scheme.keyOf raw (some model)
      else IdScheme.legacy.keyOf raw (some model)) K₂ fun _ _ => True := by
    intro isPublic K₂
    split
    · exact maps_keyOf _ _
    · split
      · split
        · exact .throw _
        · exact maps_keyOf _ _
      · exact maps_keyOf _ _
  by_cases hraw : isCanonicalV4 raw = true
  · simp only [hraw, if_true]
    exact maps_publicIdEnabled.bind fun on K₂ _ _ => hkey on K₂
  · simp only [hraw, Bool.false_eq_true, if_false]
    exact (Action.Maps.pure (Q := fun _ _ => True) trivial).bind fun on K₂ _ _ => hkey on K₂

/-! ## Handlers -/

theorem maps_getRow : Maps (getRow registry plural raw) K fun _ _ => True := by
  refine (Action.Maps.result _).bind fun model K₁ _ _ => ?_
  refine maps_resolveLookup.bind fun pk K₂ _ _ => ?_
  refine maps_row.bind fun r? K₃ _ htold => ?_
  split
  next r => exact (maps_externalId (htold r rfl)).bind fun _ _ _ _ => .pure trivial
  next => exact .throw _

theorem maps_createRow (data : Json) : Maps (createRow registry plural data) K fun _ _ => True := by
  refine (Action.Maps.result _).bind fun model K₁ _ _ => ?_
  refine (maps_create data).bind fun r K₂ _ htold => ?_
  exact (maps_externalId htold).bind fun _ _ _ _ => .pure trivial

/-- A row that is deleted is of no concern afterwards. -/
theorem maps_deleteRow : Program.Maps (deleteRow registry plural raw).run K fun _ _ => True := by
  refine (Action.Maps.result _).bindProgram fun model K₁ _ => ?_
  refine maps_resolveLookup.bindProgram fun pk K₂ _ => ⟨nofun, fun existed => ?_⟩
  cases existed with
  | error f => trivial
  | ok existed => cases existed <;> trivial

theorem maps_listedId {a : AnnotatedRow} (h : a.row.key ∈ K) : Maps (listedId registry a) K fun _ _ => True := by
  unfold listedId
  split
  · exact .pure trivial
  · exact maps_externalId h

theorem maps_listQuery (params : ListParams) : Maps (listQuery model params) K fun _ _ => True := by
  refine (maps_currentScheme.bind fun _ _ _ _ => .pure trivial :
    Maps (annotateQuery model (.all model.entityType)) K fun _ _ => True).bind fun q K₁ _ _ => ?_
  have hcheck (q : RowQuery) (e : IdError) (K₂ : Keys) :
      Maps (if q.isValid then pure q else throw e : Action RowQuery) K₂ fun _ _ => True := by
    split
    · exact .pure trivial
    · exact .throw _
  cases params.publicId with
  | some raw =>
    refine (show Maps (some <$> liftM (parsePublicId raw) : Action (Option Uuid)) K₁ fun _ _ => True from
      ?_).bind fun publicId K₂ _ _ => hcheck _ _ K₂
    rw [map_eq_pure_bind]
    exact (Action.Maps.result _).bind fun _ _ _ _ => .pure trivial
  | none => exact (Action.Maps.pure (Q := fun _ _ => True) trivial).bind fun publicId K₂ _ _ => hcheck _ _ K₂

theorem maps_listRows (params : ListParams) : Maps (listRows registry plural params) K fun _ _ => True := by
  refine (Action.Maps.result _).bind fun model K₁ _ _ => ?_
  refine (maps_listQuery params).bind fun q K₂ _ _ => ?_
  refine (show Maps (liftM (Store.countRows q) : Action Nat) K₂ fun _ _ => True from .ask rfl rfl).bind
    fun total K₃ _ _ => ?_
  have hpage : Maps (pageRows q params.pageNumber params.pageSize total) K₃ fun found K' =>
      ∀ a ∈ found, a.row.key ∈ K' := by
    rcases pageRows_cases q params.pageNumber params.pageSize total with ⟨offset, hfetch⟩ | hnone
    · exact hfetch ▸ maps_fetch _
    · exact hnone ▸ .pure nofun
  refine hpage.bind fun found K₄ _ htold => ?_
  refine (Action.Maps.mapM fun a ha K₅ h₅ => ?_).bind fun views _ _ _ => .pure trivial
  exact (maps_listedId (h₅ (htold a ha))).bind fun _ _ _ _ => .pure trivial

/-! ## Queries -/

theorem maps_leafValue (leaf : Graph.Leaf) (h : r.key ∈ K) :
    Maps (Graph.leafValue registry model r leaf) K fun _ _ => True := by
  unfold Graph.leafValue
  split
  · exact (maps_globalId h).bind fun _ _ _ _ => .pure trivial
  · split
    · exact .pure trivial
    · split
      · exact .pure trivial
      · exact .pure trivial

theorem maps_objectFields (leaves : List Graph.Leaf) (h : r.key ∈ K) :
    Maps (Graph.objectFields registry model r leaves) K fun _ _ => True := by
  refine Action.Maps.foldlM (fun done leaf K' hK => ?_) []
  exact (maps_leafValue leaf (hK h)).bind fun _ _ _ _ => .pure trivial

theorem maps_rootRow (f : Graph.Field) : Maps (Graph.rootRow registry f id) K Tells := by
  unfold Graph.rootRow
  split
  · exact maps_resolveNode
  · split
    · exact maps_resolveNode
    · exact .throw _

theorem maps_rootValue (vars : Graph.Variables) (f : Graph.Field) :
    Maps (Graph.rootValue registry vars f) K fun _ _ => True := by
  refine (Action.Maps.result _).bind fun id K₁ _ _ => ?_
  refine (maps_rootRow f).bind fun r? K₂ _ htold => ?_
  split
  next => exact .pure trivial
  next r =>
    refine (Action.Maps.result _).bind fun model K₃ h₃ _ => ?_
    exact (maps_objectFields _ (h₃ (htold r rfl))).bind fun _ _ _ _ => .pure trivial

theorem maps_execute (vars : Graph.Variables) (text : String) (operation : Option String) :
    (Graph.execute registry vars text operation).Maps K fun _ _ => True := by
  unfold Graph.execute
  split
  · trivial
  next fields _ =>
    refine Program.Maps.bind (Program.Maps.foldlM (fun a f K' => ?_) _) fun _ _ _ => trivial
    exact Program.Maps.bind (maps_rootValue vars f) fun _ _ _ => trivial

/-! ## Backfill -/

theorem maps_existing (pks : List Int64) :
    Maps (Store.existing ty pks) K fun found K' => ∀ pk ∈ found, (ty, pk) ∈ K' := by
  refine .call nofun rfl fun reply found hx pk hpk => ?_
  cases reply with
  | error f => cases hx
  | ok found' =>
    obtain rfl : found' = found := Except.ok.inj hx
    exact .inr (List.mem_map_of_mem hpk)

theorem maps_newEntries (pks : List Int64) (h : ∀ pk ∈ pks, (ty, pk) ∈ K) :
    Maps (pks.mapM (Store.newEntry ty)) K fun es K' => ∀ e ∈ es, e.key ∈ K' := by
  induction pks generalizing K with
  | nil => exact .pure nofun
  | cons pk pks ih =>
    have hone : Maps (Store.newEntry ty pk) K fun e _ => e.key = (ty, pk) := by
      refine .call nofun rfl ?_
      rintro stamp _ ⟨⟩
      rfl
    rw [List.mapM_cons]
    refine hone.bind fun e K₁ h₁ he => ?_
    refine (ih fun pk hpk => h₁ (h pk (List.mem_cons_of_mem _ hpk))).bind fun es K₂ h₂ hes => .pure fun e' he' => ?_
    rcases List.mem_cons.1 he' with rfl | he'
    · exact he ▸ h₂ (h₁ (h pk List.mem_cons_self))
    · exact hes e' he'

/-- A batch makes entries for rows that it has found to be stored. -/
theorem maps_backfillBatch (pks : List Int64) : Maps (backfillBatch ty false pks) K fun _ _ => True := by
  unfold backfillBatch
  simp only [Bool.false_eq_true, if_false]
  refine (show Maps (Store.mapped ty pks) K fun _ _ => True from .ask rfl rfl).bind fun mapped K₁ _ _ => ?_
  split
  · exact .pure trivial
  · refine (maps_existing _).bind fun found K₂ _ hfound => ?_
    refine (maps_newEntries _ fun pk hpk => hfound pk ?_).bind fun es K₃ _ hes => ?_
    · simpa using (List.mem_filter.1 hpk).2
    · refine (show Maps (Store.insertEntries es) K₃ fun _ _ => True from
        .call (fun k hk => ?_) rfl fun _ _ _ => trivial).bind fun _ _ _ _ => .pure trivial
      obtain ⟨e, he, rfl⟩ := List.mem_map.1 hk
      exact hes e he

theorem maps_backfillPages (batchSize pages : Nat) (cursor : Option Int64) {report : BackfillReport}
    (hdry : report.dryRun = false) : Maps (backfillPages batchSize pages cursor report) K fun _ _ => True := by
  induction pages generalizing cursor report K with
  | zero => exact .throw _
  | succ pages ih =>
    unfold backfillPages
    refine (show Maps (liftM (Store.keys report.model cursor batchSize) : Action (List Int64)) K fun _ _ => True from
      .ask rfl rfl).bind fun pks K₁ _ _ => ?_
    split
    · rw [hdry]
      refine (Action.Maps.lift (maps_backfillBatch pks)).bind fun outcome K₂ _ _ => ?_
      split
      · exact .pure trivial
      · refine ih _ ?_
        cases outcome <;> exact hdry
    · exact .pure trivial

theorem maps_backfillModel (batchSize : Nat) : Maps (backfillModel false batchSize model) K fun _ _ => True :=
  (Action.Maps.result _).bind fun _ _ _ _ => (Action.Maps.result _).bind fun _ _ _ _ => maps_backfillPages _ _ _ rfl

end

end RowIdentity
