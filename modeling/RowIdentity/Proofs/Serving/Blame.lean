import RowIdentity.Proofs.Concurrency.Told
import RowIdentity.Proofs.Resolution.Lookup
import RowIdentity.Proofs.Serving.FreshRow

/-!
# Whose fault a failure is

* `Memory.Proper`, `Proper.answer` — entries are those of models that track public ids, and **no call breaks this that
  makes entries for such models alone**;
* `World.Provided` — whenever a run has to make an entry, an unused id is among the draws;
* `IdResult.ByClient` — a result that fails by the client's fault, if at all;
* `Action.Serves` — the same of an action, from every proper state to a proper state; with one rule for each way to
  build an action, and for each call;
* `serves_externalId`, `serves_resolveLookup`, `serves_resolveNode` — the parts of the handlers.
-/

namespace RowIdentity

variable {registry : Registry} {moments : Nat → Moment} {t : Moment} {m m' : Memory} {α β : Type}

/-! ## Proper states -/

namespace Memory

/-- A regular state in which every entry belongs to a registered model that tracks public ids. -/
structure Proper (registry : Registry) (m : Memory) : Prop where
  regular : m.Regular
  tracked : ∀ u e, m.mappings.entryById? u = some e → tracks registry e.entityType = true

theorem Proper.empty (registry : Registry) : Proper registry empty := ⟨.empty, nofun⟩

/-- Entries come from before, or are of a model that tracks public ids. -/
theorem Proper.of_entries (h : Proper registry m) (hreg : m'.Regular)
    (hentries : ∀ u e, m'.mappings.entryById? u = some e →
      m.mappings.entryById? u = some e ∨ tracks registry e.entityType = true) : Proper registry m' :=
  ⟨hreg, fun u e he => (hentries u e he).elim (h.tracked u e) id⟩

/-- **No call breaks properness** that makes entries for models that track public ids alone. -/
theorem Proper.answer (h : Proper registry m) (flag : Bool) (c : BackendCall)
    (hmade : ∀ k ∈ c.made, tracks registry k.1 = true) : Proper registry (answer registry flag t c m).2 := by
  refine h.of_entries (h.regular.answer flag c) fun u e he => ?_
  have hanswered := answered registry flag t c m
  generalize (Memory.answer registry flag t c m).2 = m' at hanswered he
  cases hanswered with
  | same => exact .inl he
  | inserted _ hins =>
    have hmap := hins.mappings
    split at hmap
    next htracks =>
      obtain ⟨e₀, rest, hget⟩ := hmap
      refine (entry_of_getOrInsert h.regular.coherent hget he).imp_right fun hkey => ?_
      rw [(Prod.mk.inj hkey).1, htracks]
    next => exact .inl (hmap ▸ he)
  | deleted ty pk => exact .inl (entry_of_unmap (m := m.dropRow ty pk) he)
  | unmapped => exact .inl (entry_of_unmap he)
  | entered ty pk hget =>
    refine (entry_of_getOrInsert h.regular.coherent hget he).imp_right fun hkey => ?_
    rw [(Prod.mk.inj hkey).1]
    exact hmade (ty, pk) List.mem_cons_self
  | bulk es =>
    rw [insertEntries_snd] at he
    exact (entry_of_insertAll he).imp_right fun hmem => hmade e.key (List.mem_map_of_mem hmem)

end Memory

/-! ## Draws -/

/-- A call that has to make an entry can draw an unused id. -/
def provided (registry : Registry) (moments : Nat → Moment) : BackendCall → World → Bool
  | .create ty _, w => !Memory.tracks registry ty ||
      (moments w.calls).draws.any fun u => (w.memory.mappings.entryById? u).isNone
  | c, w => supplied moments c w

/-- Every call of a run that has to make an entry can draw an unused id. -/
def World.Provided (registry : Registry) (moments : Nat → Moment) (p : Program Backend α) (w : World) : Prop :=
  p.Throughout (answer registry moments) (provided registry moments · · = true) w

theorem World.provided_bind {a : Action α} {k : α → Action β} {w : World}
    (h : Provided registry moments (a >>= k).run w) :
    Provided registry moments a.run w ∧
      ∀ x w', run registry moments a w = (.ok x, w') → Provided registry moments (k x).run w' :=
  (Program.throughout_bind a k w).1 h

/-! ## Results -/

/-- If the result is a failure, the client has caused it. -/
def IdResult.ByClient (r : IdResult α) : Prop := ∀ e, r = .error e → e.isClientError = true

namespace IdResult.ByClient

theorem ok (x : α) : ByClient (.ok x) := nofun

theorem error {e : IdError} (h : e.isClientError = true) : ByClient (.error e : IdResult α) := by
  rintro _ ⟨⟩
  exact h

theorem bind {r : IdResult α} {f : α → IdResult β} (hr : ByClient r) (hf : ∀ x, r = .ok x → ByClient (f x)) :
    ByClient (r >>= f) := by
  cases r with
  | error e => exact error (hr e rfl)
  | ok x => exact hf x rfl

theorem ite {c : Prop} [Decidable c] {r s : IdResult α} (hr : c → ByClient r) (hs : ¬c → ByClient s) :
    ByClient (if c then r else s) := by
  split
  next h => exact hr h
  next h => exact hs h

end IdResult.ByClient

open IdResult (ByClient)

theorem byClient_parsePublicId (s : String) : ByClient (parsePublicId s) := by
  unfold parsePublicId
  split
  · exact .ok _
  · exact .error rfl

theorem byClient_parseKey (s : String) : ByClient (parseKey s) :=
  .ite (fun _ => .error rfl) fun _ => .ite (fun _ => .ok _) fun _ => .error rfl

theorem byClient_decodeGlobalId (s : String) : ByClient (decodeGlobalId s) := by
  intro e he
  obtain ⟨reason, rfl⟩ := decodeGlobalId_error he
  rfl

theorem byClient_model (registry : Registry) (ty : String) : ByClient (registry.model ty) := by
  unfold Registry.model
  split
  · exact .ok _
  · exact .error rfl

theorem byClient_graphModel (registry : Registry) (name : String) : ByClient (registry.graphModel name) := by
  unfold Registry.graphModel
  split
  · exact .ok _
  · exact .error rfl

theorem byClient_collection (registry : Registry) (plural : String) : ByClient (collection registry plural) := by
  unfold collection
  split
  · exact .ok _
  · exact .error rfl

theorem byClient_ensureNode (model : Model) : ByClient (ensureNode model) := by
  unfold ensureNode
  split
  · exact .ite (fun _ => .ok _) fun _ => .error rfl
  · exact .error rfl

theorem byClient_ensureExpected (typeName : String) (expected : Option String) :
    ByClient (ensureExpected typeName expected) := by
  unfold ensureExpected
  split
  · exact .ite (fun _ => .ok _) fun _ => .error rfl
  · exact .ok _

namespace Memory

theorem byClient_legacyNode (m : Memory) (s : String) (expected : Option String) :
    ByClient (m.legacyNode registry s expected) := by
  refine .bind (byClient_decodeGlobalId s) fun ⟨typeName, key⟩ _ => ?_
  refine .bind (byClient_ensureExpected _ _) fun _ _ => ?_
  refine .bind (byClient_graphModel _ _) fun model _ => ?_
  refine .bind (byClient_ensureNode _) fun _ _ => ?_
  exact .bind (byClient_parseKey _) fun _ _ => .ok _

theorem byClient_pkNode (m : Memory) (s : String) (expected : Option String) :
    ByClient (m.pkNode registry s expected) := by
  cases expected with
  | none => exact .error rfl
  | some name =>
    refine .bind (byClient_graphModel _ _) fun model _ => ?_
    refine .ite (fun _ => .error rfl) fun _ => ?_
    refine .bind (byClient_ensureNode _) fun _ _ => ?_
    exact .bind (byClient_parseKey _) fun _ _ => .ok _

/-- **In a proper state no public id belongs to a model without public ids.** -/
theorem Proper.byClient_publicIdNode (h : Proper registry m) (s : String) (expected : Option String) :
    ByClient (m.publicIdNode registry s expected) := by
  refine .bind (byClient_parsePublicId s) fun u _ => ?_
  refine .bind (.ok _) fun entry? hentry => ?_
  cases entry? with
  | none => exact .ok _
  | some e =>
    obtain ⟨model, hmodel, htracks⟩ := (tracks_eq_true_iff _ _).1 (h.tracked u e (Except.ok.inj hentry))
    have heligible : model.isPublicIdEligible = true := by
      rw [Model.tracksPublicIds, Bool.and_eq_true] at htracks
      exact htracks.1
    refine .bind (byClient_model _ _) fun model' hmodel' => ?_
    obtain rfl := Option.some.inj (hmodel.symm.trans ((registry.model_eq_ok_iff _ _).1 hmodel'))
    refine .ite (fun hnot => ?_) fun _ => ?_
    · rw [heligible] at hnot
      cases hnot
    · refine .bind (byClient_ensureNode _) fun _ _ => ?_
      exact .bind (byClient_ensureExpected _ _) fun _ _ => .ok _

/-- **Global ids are refused by the client's fault alone.** -/
theorem Proper.byClient_node (h : Proper registry m) (flag : Bool) (s : String) (expected : Option String) :
    ByClient (m.node registry flag s expected) := by
  refine .ite (fun _ => ?_) fun _ => ?_
  · exact .ite (fun _ => h.byClient_publicIdNode s expected) fun _ => .error rfl
  · exact .ite (fun _ => m.byClient_pkNode s expected) fun _ => m.byClient_legacyNode s expected

/-- **Path segments are refused by the client's fault alone.** -/
theorem byClient_lookup (m : Memory) (flag : Bool) (model : Model) (s : String) :
    ByClient (m.lookup flag model s) := by
  refine .ite (fun _ => ?_) fun _ => .ite (fun _ => ?_) fun _ => ?_
  · refine .bind (byClient_parsePublicId s) fun u _ => ?_
    refine .bind (.ok _) fun entry? _ => ?_
    cases entry? with
    | none => exact .error rfl
    | some e => exact .ite (fun _ => .error rfl) fun _ => .ok _
  · exact .ite (fun _ => .error rfl) fun _ => byClient_parseKey s
  · refine .bind (byClient_decodeGlobalId s) fun ⟨typeName, key⟩ _ => ?_
    exact .ite (fun _ => .error rfl) fun _ => byClient_parseKey key

end Memory

/-! ## Actions -/

/-- Run in a proper state, the action ends in one; what it returns is as `Q` says; and if it fails although unused ids
could be drawn, the client has caused it. -/
structure Action.Serves (registry : Registry) (moments : Nat → Moment) (a : Action α) (Q : α → Prop) : Prop where
  proper : ∀ w, w.memory.Proper registry → (World.run registry moments a w).2.memory.Proper registry
  returns : ∀ w x w', w.memory.Proper registry → World.run registry moments a w = (.ok x, w') → Q x
  fails : ∀ w, w.memory.Proper registry → World.Provided registry moments a.run w →
    ByClient (World.run registry moments a w).1

namespace Action.Serves

variable {a : Action α} {Q : α → Prop} {Q' : β → Prop}

theorem pure {x : α} (h : Q x) : Serves registry moments (Pure.pure x) Q where
  proper := fun _ hw => hw
  returns := by
    rintro w _ _ - ⟨⟩
    exact h
  fails := fun _ _ _ => .ok x

theorem throw {e : IdError} (h : e.isClientError = true) :
    Serves registry moments (MonadExcept.throw e : Action α) Q where
  proper := fun _ hw => hw
  returns := nofun
  fails := fun _ _ _ => .error h

theorem result {r : IdResult α} (h : ByClient r) : Serves registry moments (liftM r) fun x => r = .ok x where
  proper := fun _ hw => hw
  returns := fun _ _ _ _ heq => (Prod.mk.inj heq).1
  fails := fun _ _ _ => h

/-- An action that only looks. -/
theorem reads {f : Memory → Bool → IdResult α} (h : Reads a f)
    (hf : ∀ m flag, m.Proper registry → ByClient (f m flag)) :
    Serves registry moments a fun x => ∃ m flag, f m flag = .ok x where
  proper := by
    intro w hw
    obtain ⟨n, hn⟩ := h registry moments w
    rw [hn]
    exact hw
  returns := by
    intro w x _ _ heq
    refine ⟨w.memory, w.flag, ?_⟩
    rw [← h.run_fst, heq]
  fails := by
    intro w hw _
    rw [h.run_fst]
    exact hf w.memory w.flag hw

theorem mono (h : Serves registry moments a Q) {R : α → Prop} (hQ : ∀ x, Q x → R x) : Serves registry moments a R :=
  ⟨h.proper, fun w x w' hw heq => hQ x (h.returns w x w' hw heq), h.fails⟩

theorem bind {k : α → Action β} (ha : Serves registry moments a Q) (hk : ∀ x, Q x → Serves registry moments (k x) Q') :
    Serves registry moments (a >>= k) Q' where
  proper := by
    intro w hw
    have hproper := ha.proper w hw
    rw [World.run_bind]
    rcases heq : World.run registry moments a w with ⟨e | x, w'⟩
    · rwa [heq] at hproper
    · rw [heq] at hproper
      exact (hk x (ha.returns w x w' hw heq)).proper w' hproper
  returns := by
    intro w y w'' hw hrun
    have hproper := ha.proper w hw
    rw [World.run_bind] at hrun
    rcases heq : World.run registry moments a w with ⟨e | x, w'⟩
    · rw [heq] at hrun
      cases hrun
    · rw [heq] at hrun hproper
      exact (hk x (ha.returns w x w' hw heq)).returns w' y w'' hproper hrun
  fails := by
    intro w hw hdraws
    obtain ⟨hfirst, hrest⟩ := World.provided_bind hdraws
    have hproper := ha.proper w hw
    have hfails := ha.fails w hw hfirst
    rw [World.run_bind]
    rcases heq : World.run registry moments a w with ⟨e | x, w'⟩
    · rw [heq] at hfails
      exact .error (hfails e rfl)
    · rw [heq] at hproper
      exact (hk x (ha.returns w x w' hw heq)).fails w' hproper (hrest x w' heq)

theorem mapM {k : β → Action α} {xs : List β} (hk : ∀ x, Serves registry moments (k x) fun _ => True) :
    Serves registry moments (xs.mapM k) fun _ => True := by
  induction xs with
  | nil => exact .pure trivial
  | cons x xs ih =>
    rw [List.mapM_cons]
    exact (hk x).bind fun _ _ => ih.bind fun _ _ => .pure trivial

theorem foldlM {k : α → β → Action α} {xs : List β} (hk : ∀ x y, Serves registry moments (k x y) fun _ => True)
    (x : α) : Serves registry moments (xs.foldlM k x) fun _ => True := by
  induction xs generalizing x with
  | nil => exact .pure trivial
  | cons y xs ih =>
    rw [List.foldlM_cons]
    exact (hk x y).bind fun x' _ => ih x'

end Action.Serves

open RowIdentity.Action (Serves)

/-! ## Calls -/

/-- A call of the store that makes entries for models that track public ids alone. -/
theorem Action.Serves.call {c : BackendCall} {read : c.Reply → IdResult α}
    (hmade : ∀ k ∈ c.made, Memory.tracks registry k.1 = true)
    (hfails : ∀ w : World, w.memory.Proper registry → provided registry moments c w = true →
      ByClient (read (w.answer registry moments c).1)) :
    Serves registry moments (ExceptT.mk (.call (I := Backend) c fun r => .done (read r))) fun _ => True where
  proper := fun _ hw => hw.answer _ c hmade
  returns := fun _ _ _ _ _ => trivial
  fails := fun w hw hdraws => hfails w hw (hdraws (c, w) List.mem_cons_self)

theorem serves_row (ty : String) (pk : Int64) :
    Serves registry moments (liftM (Store.row ty pk) : Action (Option Row)) fun _ => True :=
  .call nofun fun _ _ _ => .ok _

theorem serves_delete (ty : String) (pk : Int64) :
    Serves registry moments (liftM (Store.delete ty pk) : Action Bool) fun _ => True :=
  .call nofun fun _ _ _ => .ok _

theorem serves_fetch {q : RowQuery} (hq : q.isValid = true) :
    Serves registry moments (liftM (Store.fetch q) : Action (List AnnotatedRow)) fun _ => True := by
  refine .call nofun fun w _ _ => ?_
  change ByClient ((w.memory.fetch q).mapError Fault.toError)
  rw [Memory.fetch, RowQuery.validate, if_pos hq]
  exact .ok _

theorem serves_countRows {q : RowQuery} (hq : q.isValid = true) :
    Serves registry moments (liftM (Store.countRows q) : Action Nat) fun _ => True := by
  refine .call nofun fun w _ _ => ?_
  change ByClient ((w.memory.countRows q).mapError Fault.toError)
  rw [Memory.countRows, RowQuery.validate, if_pos hq]
  exact .ok _

theorem serves_entryOrNew {ty : String} (htracks : Memory.tracks registry ty = true) (pk : Int64) :
    Serves registry moments (liftM (Store.entryOrNew ty pk) : Action MappingEntry) fun _ => True := by
  refine .call (fun k hk => ?_) fun w hw hdraws => ?_
  · rw [List.mem_singleton.1 hk]
    exact htracks
  · have hentry : ∃ e m', Memory.entryOrNew (moments w.calls) w.memory ty pk = (.ok e, m') :=
      Memory.exists_entryOrNew hw.regular fun hnone => by simpa [provided, supplied, hnone] using hdraws
    obtain ⟨e, m', he⟩ := hentry
    change ByClient ((w.memory.entryOrNew (moments w.calls) ty pk).1.mapError Fault.toError)
    rw [he]
    exact .ok e

theorem serves_create (ty : String) (data : Json) :
    Serves registry moments (liftM (Store.create ty data) : Action Row) fun _ => True := by
  refine .call nofun fun w hw hdraws => ?_
  change ByClient ((Memory.create registry (moments w.calls) w.memory ty data).1.mapError Fault.toError)
  cases hmodel : registry.get? ty with
  | none =>
    have hcreate : Memory.create registry (moments w.calls) w.memory ty data =
        (.error (.known (.unknownType ty)), w.memory) := by
      simp only [Memory.create, Memory.ensureRegistered, hmodel]
    rw [hcreate]
    exact .error rfl
  | some model =>
    have hdraw : Memory.tracks registry ty = true →
        ∃ u ∈ (moments w.calls).draws, w.memory.mappings.entryById? u = none := fun htracks => by
      simpa [provided, htracks] using hdraws
    obtain ⟨m', hcreate⟩ := Memory.exists_create hw.regular hmodel hdraw data
    rw [hcreate]
    exact .ok _

/-! ## Resolvers -/

theorem serves_currentScheme (model : Model) :
    Serves registry moments (currentScheme model) fun scheme => ∃ flag, scheme = model.scheme flag := by
  have hreads : Action.Reads (currentScheme model) fun _ flag => .ok (model.scheme flag) :=
    fun _ _ w => ⟨w.calls + 1, rfl⟩
  refine (Serves.reads hreads fun _ _ _ => .ok _).mono ?_
  rintro _ ⟨-, flag, ⟨⟩⟩
  exact ⟨flag, rfl⟩

/-- An entry is made under the Public-ID scheme alone, whose models track public ids. -/
theorem serves_idOf {model : Model} {r : Row} (hmodel : registry.get? r.entityType = some model) (flag : Bool) :
    Serves registry moments ((model.scheme flag).idOf r) fun _ => True := by
  cases hscheme : model.scheme flag with
  | legacy => exact .pure trivial
  | pk => exact .pure trivial
  | publicId =>
    have htracks := ((model.scheme_eq_publicId_iff flag).1 hscheme).2
    have htracks := (Memory.tracks_eq_true_iff _ _).2 ⟨model, hmodel, htracks⟩
    exact (serves_entryOrNew htracks r.pk).bind fun _ _ => .pure trivial

theorem serves_externalId (r : Row) : Serves registry moments (externalId registry r) fun _ => True := by
  refine (Serves.result (byClient_model _ _)).bind fun model hmodel => ?_
  refine (serves_currentScheme model).bind ?_
  rintro _ ⟨flag, rfl⟩
  exact serves_idOf ((registry.model_eq_ok_iff _ _).1 hmodel) flag

theorem serves_globalId (r : Row) : Serves registry moments (globalId registry r) fun _ => True := by
  refine (Serves.result (byClient_model _ _)).bind fun model hmodel => ?_
  split
  · refine (serves_currentScheme model).bind ?_
    rintro _ ⟨flag, rfl⟩
    exact (serves_idOf ((registry.model_eq_ok_iff _ _).1 hmodel) flag).bind fun _ _ => .pure trivial
  · exact .throw rfl

theorem serves_resolveLookup (model : Model) (raw : String) :
    Serves registry moments (resolveLookup model raw) fun _ => True :=
  (Serves.reads (reads_resolveLookup model raw) fun m flag _ => m.byClient_lookup flag model raw).mono
    fun _ _ => trivial

theorem serves_resolveNode (s : String) (expected : Option String) :
    Serves registry moments (resolveNode registry s expected) fun _ => True :=
  (Serves.reads (reads_resolveNode registry s expected) fun _ flag h => h.byClient_node flag s expected).mono
    fun _ _ => trivial

end RowIdentity
