import RowIdentity.Proofs.Memory
import RowIdentity.Proofs.Registry
import RowIdentity.Proofs.Resolution.Dispatch

/-!
# The rows behind global ids

* `Memory.legacyNode`, `Memory.publicIdNode`, `Memory.pkNode` — what each strategy reads from the stored state;
* `Memory.node`, `reads_resolveNode` — the dispatcher with its detours is a plain distinction of the three shapes;
* `resolveNode_eq_some_iff` — **the rows that a global id yields, exactly**.
-/

namespace RowIdentity

variable {registry : Registry} {moments : Nat → Moment} {m : Memory} {s : String} {expected : Option String} {r : Row}

/-- The model is shown by a type of this name, which implements the node interface. -/
def Model.IsNode (model : Model) (typeName : String) : Prop :=
  ∃ t, model.graph = some t ∧ t.implementsNode = true ∧ t.name = typeName

/-- The type is the one that is expected, or none is. -/
def Expects (expected : Option String) (typeName : String) : Prop := expected = none ∨ expected = some typeName

theorem Except.bind_eq_ok_iff {ε α β : Type} (x : Except ε α) (f : α → Except ε β) (b : β) :
    (x >>= f) = .ok b ↔ ∃ a, x = .ok a ∧ f a = .ok b := by
  cases x with
  | error e => simp [bind, Except.bind]
  | ok a => simp [bind, Except.bind]

/-- What follows a check is reached when the check holds. -/
theorem unless_throw_eq_ok_iff {ε α : Type} (c : Bool) (e : ε) (f : PUnit → Except ε α) (x : Except ε α) (a : α) :
    (if (!c) = true then throw e >>= f else x) = .ok a ↔ c = true ∧ x = .ok a := by
  cases c with
  | false => simp [throw, throwThe, MonadExceptOf.throw, bind, Except.bind]
  | true => simp

/-! ## The checks -/

theorem ensureNode_eq_ok_iff (model : Model) (typeName : String) :
    ensureNode model = .ok typeName ↔ model.IsNode typeName := by
  unfold ensureNode Model.IsNode
  cases model.graph with
  | none => simp
  | some t =>
    by_cases ht : t.implementsNode = true
    · simp [ht]
    · simp [ht]

theorem Model.IsNode.graphName? {model : Model} {typeName : String} (h : model.IsNode typeName) :
    model.graphName? = some typeName := by
  obtain ⟨t, ht, -, rfl⟩ := h
  simp [Model.graphName?, ht]

theorem ensureExpected_eq_ok_iff (typeName : String) (expected : Option String) (u : Unit) :
    ensureExpected typeName expected = .ok u ↔ Expects expected typeName := by
  unfold ensureExpected Expects
  cases expected with
  | none => simp
  | some name =>
    by_cases h : name = typeName
    · simp [h]
    · simp [h]

/-! ## What each strategy reads -/

namespace Memory

/-- What the Legacy strategy reads. -/
def legacyNode (registry : Registry) (m : Memory) (id : String) (expected : Option String) :
    IdResult (Option Row) := do
  let (typeName, key) ← decodeGlobalId id
  ensureExpected typeName expected
  let model ← registry.graphModel typeName
  let _ ← ensureNode model
  let pk ← parseKey key
  return m.row? model.entityType pk

/-- What the Public-ID strategy reads. -/
def publicIdNode (registry : Registry) (m : Memory) (id : String) (expected : Option String) :
    IdResult (Option Row) := do
  let publicId ← parsePublicId id
  let some entry ← pure (m.mappings.entryById? publicId) | return none
  let model ← registry.model entry.entityType
  if !model.isPublicIdEligible then
    throw (.schemaInconsistency entry.entityType IdScheme.publicId.name
      ("public id " ++ publicId.toText ++ " maps to a model without public ids"))
  let typeName ← ensureNode model
  ensureExpected typeName expected
  return m.row? entry.entityType entry.rowKey

/-- What the Pk strategy reads. -/
def pkNode (registry : Registry) (m : Memory) (id : String) (expected : Option String) : IdResult (Option Row) := do
  let some name := expected | throw (untypedNumber id)
  let model ← registry.graphModel name
  if !model.isPkEligible then throw (.typeMismatch name "a numeric primary key")
  let _ ← ensureNode model
  let pk ← parseKey id
  return m.row? model.entityType pk

/-- What the dispatcher reads: under the flag a canonical UUID is a public id and without it nothing; a number is a
key; everything else is a legacy id. -/
def node (registry : Registry) (m : Memory) (flag : Bool) (id : String) (expected : Option String) :
    IdResult (Option Row) :=
  if isCanonicalV4 id then
    if flag then m.publicIdNode registry id expected else .error (.invalidFormat id "not a base64 global id")
  else if isNumeric id then m.pkNode registry id expected
  else m.legacyNode registry id expected

end Memory

theorem reads_legacyNode (registry : Registry) (s : String) (expected : Option String) :
    Action.Reads (legacyNode registry s expected) fun m _ => m.legacyNode registry s expected := by
  refine Action.Reads.bind (.result _) fun ⟨typeName, key⟩ => ?_
  refine Action.Reads.bind (.result _) fun _ => ?_
  refine Action.Reads.bind (.result _) fun model => ?_
  refine Action.Reads.bind (.result _) fun _ => ?_
  refine Action.Reads.bind (.result _) fun pk => ?_
  exact Action.Reads.row _ _

theorem reads_pkNode (registry : Registry) (s : String) (expected : Option String) :
    Action.Reads (pkNode registry s expected) fun m _ => m.pkNode registry s expected := by
  cases expected with
  | none => exact Action.Reads.throw _
  | some name =>
    refine Action.Reads.bind (.result _) fun model => ?_
    refine Action.Reads.ite ?_ ?_
    · exact Action.Reads.throw _
    · refine Action.Reads.bind (.result _) fun _ => ?_
      refine Action.Reads.bind (.result _) fun pk => ?_
      exact Action.Reads.row _ _

theorem reads_publicIdNode (registry : Registry) (s : String) (expected : Option String) :
    Action.Reads (publicIdNode registry s expected) fun m _ => m.publicIdNode registry s expected := by
  refine Action.Reads.bind (.result _) fun publicId => ?_
  refine Action.Reads.bind (.entryById _) fun entry? => ?_
  cases entry? with
  | none => exact Action.Reads.pure _
  | some entry =>
    refine Action.Reads.bind (.result _) fun model => ?_
    refine Action.Reads.ite ?_ ?_
    · exact Action.Reads.throw _
    · refine Action.Reads.bind (.result _) fun typeName => ?_
      refine Action.Reads.bind (.result _) fun _ => ?_
      exact Action.Reads.row _ _

/-! ## What the dispatcher reads -/

/-- A canonical UUID is nothing else, so what comes after the Public-ID strategy only asks for the flag again. -/
theorem resolveOtherNode_of_canonical (registry : Registry) (expected : Option String) (hc : isCanonicalV4 s = true) :
    resolveOtherNode registry s expected = (do
      if ← publicIdEnabled then return none
      throw (.invalidFormat s "not a base64 global id")) := by
  have hyphen := hyphen_mem_of_isCanonicalV4 hc
  have hlegacy : legacyNode registry s expected = throw (.invalidFormat s "not a base64 global id") := by
    unfold legacyNode
    rw [decodeGlobalId_of_hyphen hyphen]
    rfl
  rw [resolveOtherNode, if_neg (by simp [not_isNumeric_of_hyphen hyphen]), legacyNodeAtLast, hlegacy]
  change (if isCanonicalV4 s then _ else _) = _
  rw [if_pos hc]

theorem reads_resolveNode_of_canonical (registry : Registry) (expected : Option String)
    (hc : isCanonicalV4 s = true) :
    Action.Reads (resolveNode registry s expected) fun m flag =>
      if flag then m.publicIdNode registry s expected else .error (.invalidFormat s "not a base64 global id") := by
  have hother : Action.Reads (resolveOtherNode registry s expected) fun _ flag =>
      if flag then .ok none else .error (.invalidFormat s "not a base64 global id") := by
    rw [resolveOtherNode_of_canonical registry expected hc]
    refine (Action.Reads.bind .publicIdEnabled fun on => .ite (.pure _) (.throw _)).congr fun m flag => ?_
    cases flag <;> rfl
  -- the row that was found, else what the other shapes come down to
  let rest (row? : Option Row) (_ : Memory) (flag : Bool) : IdResult (Option Row) :=
    row?.elim (if flag then .ok none else .error (.invalidFormat s "not a base64 global id")) fun row => .ok (some row)
  unfold resolveNode
  rw [if_pos hc]
  refine (Action.Reads.bind .publicIdEnabled fun on =>
    .ite (.bind (g := rest) (reads_publicIdNode registry s expected) fun row? => ?_) hother).congr fun m flag => ?_
  · cases row? with
    | none => exact hother
    | some row => exact .pure _
  cases flag with
  | false => rfl
  | true =>
    change (m.publicIdNode registry s expected >>= _) = m.publicIdNode registry s expected
    cases m.publicIdNode registry s expected with
    | error e => rfl
    | ok row? => cases row? <;> rfl

/-- **The dispatcher is a plain distinction of the three shapes**; its detours add nothing. -/
theorem reads_resolveNode (registry : Registry) (s : String) (expected : Option String) :
    Action.Reads (resolveNode registry s expected) fun m flag => m.node registry flag s expected := by
  by_cases hc : isCanonicalV4 s = true
  · refine (reads_resolveNode_of_canonical registry expected hc).congr fun m flag => ?_
    rw [Memory.node, if_pos hc]
  · rw [resolveNode_of_not_canonical registry expected (by simpa using hc), resolveOtherNode,
      legacyNodeAtLast_of_not_canonical registry expected (by simpa using hc)]
    have hreads := Action.Reads.ite (c := isNumeric s = true) (reads_pkNode registry s expected)
      (reads_legacyNode registry s expected)
    refine hreads.congr fun m flag => ?_
    rw [Memory.node, if_neg hc]

/-! ## The rows each strategy yields -/

/-- The model of a graph type with the node interface is the registered model that has this node type. -/
theorem Registry.Indexed.nodeModel_iff (h : registry.Indexed) (typeName : String) (model : Model) :
    registry.byGraphName? typeName = some model ∧ (∃ t, model.IsNode t) ↔
      registry.get? model.entityType = some model ∧ model.IsNode typeName := by
  rw [h.byGraphName?_eq_some_iff, h.get?_eq_some_iff]
  constructor
  · rintro ⟨⟨hmem, hname⟩, t, ht⟩
    obtain rfl := Option.some.inj (hname.symm.trans ht.graphName?)
    exact ⟨⟨hmem, rfl⟩, ht⟩
  · rintro ⟨⟨hmem, -⟩, ht⟩
    exact ⟨⟨hmem, ht.graphName?⟩, typeName, ht⟩

theorem Memory.legacyNode_eq_some_iff (h : registry.Indexed) (m : Memory) (s : String) (expected : Option String)
    (r : Row) :
    m.legacyNode registry s expected = .ok (some r) ↔
      ∃ typeName id model pk, decodeGlobalId s = .ok (typeName, id) ∧ Expects expected typeName ∧
        (registry.get? model.entityType = some model ∧ model.IsNode typeName) ∧ parseKey id = .ok pk ∧
        m.row? model.entityType pk = some r := by
  simp only [Memory.legacyNode, Except.bind_eq_ok_iff, ensureExpected_eq_ok_iff, ensureNode_eq_ok_iff,
    Registry.graphModel_eq_ok_iff, pure, Except.pure, Except.ok.injEq, Prod.exists, ← h.nodeModel_iff]
  constructor
  · rintro ⟨typeName, id, hd, -, hexp, model, hmodel, t, ht, pk, hpk, hrow⟩
    exact ⟨typeName, id, model, pk, hd, hexp, ⟨hmodel, t, ht⟩, hpk, hrow⟩
  · rintro ⟨typeName, id, model, pk, hd, hexp, ⟨hmodel, t, ht⟩, hpk, hrow⟩
    exact ⟨typeName, id, hd, (), hexp, model, hmodel, t, ht, pk, hpk, hrow⟩

theorem Memory.pkNode_eq_some_iff (h : registry.Indexed) (m : Memory) (s : String) (expected : Option String)
    (r : Row) :
    m.pkNode registry s expected = .ok (some r) ↔
      ∃ typeName model pk, expected = some typeName ∧
        (registry.get? model.entityType = some model ∧ model.IsNode typeName) ∧ model.isPkEligible = true ∧
        parseKey s = .ok pk ∧ m.row? model.entityType pk = some r := by
  cases expected with
  | none => simp [Memory.pkNode, throw, throwThe, MonadExceptOf.throw]
  | some name =>
    simp only [Memory.pkNode, Except.bind_eq_ok_iff, Registry.graphModel_eq_ok_iff, unless_throw_eq_ok_iff,
      ensureNode_eq_ok_iff, pure, Except.pure, Except.ok.injEq, Option.some.injEq, ← h.nodeModel_iff]
    constructor
    · rintro ⟨model, hmodel, hp, t, ht, pk, hpk, hrow⟩
      exact ⟨name, model, pk, rfl, ⟨hmodel, t, ht⟩, hp, hpk, hrow⟩
    · rintro ⟨_, model, pk, rfl, ⟨hmodel, t, ht⟩, hp, hpk, hrow⟩
      exact ⟨model, hmodel, hp, t, ht, pk, hpk, hrow⟩

theorem Memory.publicIdNode_eq_some_iff (registry : Registry) (m : Memory) (s : String) (expected : Option String)
    (r : Row) :
    m.publicIdNode registry s expected = .ok (some r) ↔
      ∃ u e model typeName, parsePublicId s = .ok u ∧ m.mappings.entryById? u = some e ∧
        registry.get? e.entityType = some model ∧ model.isPublicIdEligible = true ∧ model.IsNode typeName ∧
        Expects expected typeName ∧ m.row? e.entityType e.rowKey = some r := by
  simp only [Memory.publicIdNode, Except.bind_eq_ok_iff, pure, Except.pure, Except.ok.injEq]
  constructor
  · rintro ⟨u, hu, _, rfl, hrest⟩
    cases he : m.mappings.entryById? u with
    | none => simp [he] at hrest
    | some e =>
      simp only [he, Except.bind_eq_ok_iff, Registry.model_eq_ok_iff, unless_throw_eq_ok_iff, ensureNode_eq_ok_iff,
        ensureExpected_eq_ok_iff, Except.ok.injEq] at hrest
      obtain ⟨model, hmodel, hp, t, ht, -, hexp, hrow⟩ := hrest
      exact ⟨u, e, model, t, hu, he, hmodel, hp, ht, hexp, hrow⟩
  · rintro ⟨u, e, model, t, hu, he, hmodel, hp, ht, hexp, hrow⟩
    refine ⟨u, hu, some e, he, ?_⟩
    simp only [Except.bind_eq_ok_iff, Registry.model_eq_ok_iff, unless_throw_eq_ok_iff, ensureNode_eq_ok_iff,
      ensureExpected_eq_ok_iff, Except.ok.injEq]
    exact ⟨model, hmodel, hp, t, ht, (), hexp, hrow⟩

/-! ## How an id names a row -/

/-- The three ways in which an id names the key of a row of a model with a node type: as the canonical public id of
its entry, as the bare key under an expected type, and as the type name with the key in base64. -/
inductive Memory.Names (m : Memory) (flag : Bool) (model : Model) (typeName : String) (pk : Int64) (s : String)
    (expected : Option String) : Prop where
  | publicId {u : Uuid} {e : MappingEntry} : flag = true → u.IsV4 → s = u.toText →
      m.mappings.entryById? u = some e → e.entityType = model.entityType → e.rowKey = pk →
      model.isPublicIdEligible = true → Names m flag model typeName pk s expected
  | key : s.toList ≠ [] → (∀ c ∈ s.toList, c.isDigit = true) → (Decimal.value s.toList : Int) = pk.toInt →
      expected = some typeName → model.isPkEligible = true → Names m flag model typeName pk s expected
  | legacy {id : String} : decodeGlobalId s = .ok (typeName, id) → parseKey id = .ok pk →
      Names m flag model typeName pk s expected

namespace Memory.Names

variable {flag : Bool} {model : Model} {typeName : String} {pk : Int64}

/-- A canonical UUID names a row as its public id alone. -/
theorem canonical_iff (hc : isCanonicalV4 s = true) :
    m.Names flag model typeName pk s expected ↔
      flag = true ∧ ∃ u e, parsePublicId s = .ok u ∧ m.mappings.entryById? u = some e ∧
        e.entityType = model.entityType ∧ e.rowKey = pk ∧ model.isPublicIdEligible = true := by
  have hyphen := hyphen_mem_of_isCanonicalV4 hc
  constructor
  · intro h
    cases h with
    | publicId hf _ hs he hty hpk hp => exact ⟨hf, _, _, hs ▸ parsePublicId_toText _, he, hty, hpk, hp⟩
    | key hne hdigits _ _ _ =>
      have hn := (isNumeric_iff s).2 ⟨hne, hdigits⟩
      rw [not_isNumeric_of_hyphen hyphen] at hn
      cases hn
    | legacy hd _ =>
      rw [decodeGlobalId_of_hyphen hyphen] at hd
      cases hd
  · rintro ⟨hf, u, e, hu, he, hty, hpk, hp⟩
    obtain ⟨u', hv4, rfl⟩ := (isCanonicalV4_iff s).1 hc
    obtain rfl := Except.ok.inj ((parsePublicId_toText u').symm.trans hu)
    exact .publicId hf hv4 rfl he hty hpk hp

/-- A number names a row as its key alone. -/
theorem numeric_iff (hc : ¬ isCanonicalV4 s = true) (hn : isNumeric s = true) :
    m.Names flag model typeName pk s expected ↔
      parseKey s = .ok pk ∧ expected = some typeName ∧ model.isPkEligible = true := by
  constructor
  · intro h
    cases h with
    | publicId _ hv4 hs _ _ _ _ => exact absurd ((isCanonicalV4_iff s).2 ⟨_, hv4, hs⟩) hc
    | key _ _ hval hexp hp => exact ⟨(parseKey_eq_ok_iff s pk).2 ⟨hn, hval⟩, hexp, hp⟩
    | legacy hd hpk =>
      have : IdShape.numeric = IdShape.legacy := HasShape.unique (s := s) hn ⟨_, _, _, hd, hpk⟩
      cases this
  · rintro ⟨hpk, hexp, hp⟩
    obtain ⟨hne, hdigits⟩ := (isNumeric_iff s).1 hn
    exact .key hne hdigits ((parseKey_eq_ok_iff s pk).1 hpk).2 hexp hp

/-- Any other text names a row as a legacy id alone. -/
theorem legacy_iff (hc : ¬ isCanonicalV4 s = true) (hn : ¬ isNumeric s = true) :
    m.Names flag model typeName pk s expected ↔
      ∃ id, decodeGlobalId s = .ok (typeName, id) ∧ parseKey id = .ok pk := by
  constructor
  · intro h
    cases h with
    | publicId _ hv4 hs _ _ _ _ => exact absurd ((isCanonicalV4_iff s).2 ⟨_, hv4, hs⟩) hc
    | key hne hdigits _ _ _ => exact absurd ((isNumeric_iff s).2 ⟨hne, hdigits⟩) hn
    | legacy hd hpk => exact ⟨_, hd, hpk⟩
  · rintro ⟨id, hd, hpk⟩
    exact .legacy hd hpk

end Memory.Names

/-- The dispatcher finds a row exactly when the id names it in one of the three ways. -/
theorem Memory.node_eq_some_iff (hi : registry.Indexed) (hm : m.Regular) (flag : Bool) (s : String)
    (expected : Option String) (r : Row) :
    m.node registry flag s expected = .ok (some r) ↔
      ∃ model typeName, registry.get? model.entityType = some model ∧ model.IsNode typeName ∧
        Expects expected typeName ∧ m.row? model.entityType r.pk = some r ∧
        m.Names flag model typeName r.pk s expected := by
  unfold Memory.node
  by_cases hc : isCanonicalV4 s = true
  · simp only [Names.canonical_iff hc, if_pos hc]
    cases flag with
    | false => simp
    | true =>
      rw [if_pos rfl, publicIdNode_eq_some_iff]
      constructor
      · rintro ⟨u, e, model, typeName, hu, he, hmodel, hp, hnode, hexp, hrow⟩
        have hty := Registry.get?_entityType hmodel
        obtain ⟨-, hpk⟩ := hm.filed _ _ _ hrow
        exact ⟨model, typeName, hty ▸ hmodel, hnode, hexp, by rw [hty, hpk]; exact hrow,
          rfl, u, e, hu, he, hty.symm, hpk.symm, hp⟩
      · rintro ⟨model, typeName, hmodel, hnode, hexp, hrow, -, u, e, hu, he, hty, hpk, hp⟩
        exact ⟨u, e, model, typeName, hu, he, hty ▸ hmodel, hp, hnode, hexp, by rw [hty, hpk]; exact hrow⟩
  · rw [if_neg hc]
    by_cases hn : isNumeric s = true
    · simp only [Names.numeric_iff hc hn, if_pos hn, pkNode_eq_some_iff hi]
      constructor
      · rintro ⟨typeName, model, pk, rfl, ⟨hmodel, hnode⟩, hp, hpk, hrow⟩
        obtain ⟨-, rfl⟩ := hm.filed _ _ _ hrow
        exact ⟨model, typeName, hmodel, hnode, .inr rfl, hrow, hpk, rfl, hp⟩
      · rintro ⟨model, typeName, hmodel, hnode, -, hrow, hpk, hexp, hp⟩
        exact ⟨typeName, model, r.pk, hexp, ⟨hmodel, hnode⟩, hp, hpk, hrow⟩
    · simp only [Names.legacy_iff hc hn, if_neg hn, legacyNode_eq_some_iff hi]
      constructor
      · rintro ⟨typeName, id, model, pk, hd, hexp, ⟨hmodel, hnode⟩, hpk, hrow⟩
        obtain ⟨-, rfl⟩ := hm.filed _ _ _ hrow
        exact ⟨model, typeName, hmodel, hnode, hexp, hrow, id, hd, hpk⟩
      · rintro ⟨model, typeName, hmodel, hnode, hexp, hrow, id, hd, hpk⟩
        exact ⟨typeName, id, model, r.pk, hd, hexp, ⟨hmodel, hnode⟩, hpk, hrow⟩

/-- **The rows that a global id yields**, from every reachable state and under every value of the flag. The row is
stored under a registered model with a node type that fits the expected one, and the id names it. -/
theorem resolveNode_eq_some_iff (hreg : registry.Built) (moments : Nat → Moment) (w : World)
    (hw : Memory.Reachable registry w.memory) (s : String) (expected : Option String) (r : Row) :
    (World.run registry moments (resolveNode registry s expected) w).1 = .ok (some r) ↔
      ∃ model typeName, registry.get? model.entityType = some model ∧ model.IsNode typeName ∧
        Expects expected typeName ∧ w.memory.row? model.entityType r.pk = some r ∧
        w.memory.Names w.flag model typeName r.pk s expected := by
  rw [(reads_resolveNode registry s expected).run_fst]
  exact Memory.node_eq_some_iff hreg.indexed hw.regular w.flag s expected r

/-- The first widget is found under its legacy id. -/
theorem resolveNode_eq_some_iff_widget :
    (World.run .widgets (fun _ => .start) (resolveNode .widgets "V2lkZ2V0OjE=" none) (.widget true)).1 =
      .ok (some .widget) := by
  refine (resolveNode_eq_some_iff Registry.built_widgets _ _ (Memory.reachable_widget true) _ none _).2 ?_
  refine ⟨Registry.widget, "Widget", rfl, ⟨_, rfl, rfl, rfl⟩, .inl rfl, rfl, ?_⟩
  exact .legacy (show decodeGlobalId "V2lkZ2V0OjE=" = .ok ("Widget", "1") by decide +kernel) (by decide +kernel)

end RowIdentity
