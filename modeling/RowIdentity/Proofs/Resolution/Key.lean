import RowIdentity.Proofs.Resolution.Number
import RowIdentity.Proofs.Resolution.Outcome

/-!
# The key behind a global id, and the row behind it

`keyOfGlobalId` looks at an id on its own: it asks for no node type and for no stored row. What it makes of an id
still is what `resolveNode` makes of it.

* `Memory.nodeKey`, `reads_keyOfGlobalId` — the key path as a plain distinction of the three shapes;
* `Memory.Names.nodeKey` — an id that names the key of a row reads as that key;
* `Memory.nodeKey_cases` — a text that reads as a key of an expected node type, and is no number, is a public id of a
  row of that type's model or a legacy id of the type;
* `keyOfGlobalId_agrees_with_resolveNode` — **the two paths agree**.
-/

namespace RowIdentity

variable {registry : Registry} {m : Memory} {model : Model} {typeName s : String} {flag : Bool} {pk : Int64}
  {expected : Option String} {r : Row}

/-! ## What the key path reads -/

namespace Memory

/-- What the Public-ID strategy reads as a key. -/
def publicIdNodeKey (registry : Registry) (m : Memory) (id : String) (expected : Option String) : IdResult Int64 := do
  let publicId ← parsePublicId id
  match ← pure (m.mappings.entryById? publicId) with
  | none =>
    let entityType ← match expected with
      | some name => (·.entityType) <$> registry.graphModel name
      | none => pure nodeInterface
    throw (.notFound entityType publicId.toText)
  | some entry =>
    if expected.isSome then
      let model ← registry.model entry.entityType
      ensureExpected (model.graphName?.getD model.entityType) expected
    return entry.rowKey

/-- What the Legacy strategy reads as a key; it needs no state. -/
def legacyNodeKey (id : String) (expected : Option String) : IdResult Int64 := do
  let (typeName, key) ← decodeGlobalId id
  ensureExpected typeName expected
  parseKey key

/-- What the key path reads. Without the flag a canonical UUID goes on to the other shapes. -/
def nodeKey (registry : Registry) (m : Memory) (flag : Bool) (id : String) (expected : Option String) :
    IdResult Int64 :=
  if isCanonicalV4 id && flag then m.publicIdNodeKey registry id expected
  else if isNumeric id then parseKey id
  else legacyNodeKey id expected

end Memory

theorem reads_publicIdNodeKey (registry : Registry) (s : String) (expected : Option String) :
    Action.Reads (IdScheme.publicId.nodeKey registry s expected) fun m _ => m.publicIdNodeKey registry s expected := by
  refine Action.Reads.bind (.result _) fun publicId => ?_
  refine Action.Reads.bind (.entryById _) fun entry? => ?_
  cases entry? with
  | none =>
    cases expected with
    | none => exact Action.Reads.throw _
    | some name =>
      refine Action.Reads.bind (f := fun _ _ => (·.entityType) <$> registry.graphModel name)
        (fun _ _ w => ⟨w.calls, ?_⟩) fun _ => .throw _
      cases registry.graphModel name <;> rfl
  | some entry =>
    cases expected with
    | none => exact Action.Reads.pure _
    | some name =>
      refine Action.Reads.bind (.result _) fun model => ?_
      exact Action.Reads.bind (.result _) fun _ => .pure _

theorem reads_legacyNodeKey (registry : Registry) (s : String) (expected : Option String) :
    Action.Reads (IdScheme.legacy.nodeKey registry s expected) fun _ _ => Memory.legacyNodeKey s expected := by
  refine Action.Reads.bind (.result _) fun ⟨typeName, key⟩ => ?_
  exact Action.Reads.bind (.result _) fun _ => .result _

/-- **The key path is a plain distinction of the three shapes.** -/
theorem reads_keyOfGlobalId (registry : Registry) (s : String) (expected : Option String) :
    Action.Reads (keyOfGlobalId registry s expected) fun m flag => m.nodeKey registry flag s expected := by
  by_cases hc : isCanonicalV4 s = true
  · have hn := not_isNumeric_of_hyphen (hyphen_mem_of_isCanonicalV4 hc)
    simp only [keyOfGlobalId, hc, hn, if_true]
    refine (Action.Reads.bind .publicIdEnabled (g := fun on m _ => if on then m.publicIdNodeKey registry s expected
      else Memory.legacyNodeKey s expected) fun on => ?_).congr fun m flag => ?_
    · cases on with
      | true => exact reads_publicIdNodeKey registry s expected
      | false => exact reads_legacyNodeKey registry s expected
    · simp only [Memory.nodeKey, hc, hn, Bool.true_and]
      cases flag <;> rfl
  · have hc' : isCanonicalV4 s = false := by simpa using hc
    by_cases hn : isNumeric s = true
    · rw [keyOfGlobalId_of_numeric registry expected hn]
      refine (Action.Reads.result (parseKey s)).congr fun m flag => ?_
      simp [Memory.nodeKey, hc', hn]
    · rw [keyOfGlobalId_of_neither registry expected hc' (by simpa using hn)]
      refine (reads_legacyNodeKey registry s expected).congr fun m flag => ?_
      simp [Memory.nodeKey, hc', hn]

/-! ## The keys each shape stands for -/

namespace Memory

/-- The name that an expected type is compared with: the graph type of the model, or its entity type where it has
no graph type. -/
theorem publicIdNodeKey_eq_ok_iff (registry : Registry) (m : Memory) (s : String) (expected : Option String)
    (pk : Int64) :
    m.publicIdNodeKey registry s expected = .ok pk ↔
      ∃ u e, parsePublicId s = .ok u ∧ m.mappings.entryById? u = some e ∧ e.rowKey = pk ∧
        ∀ name, expected = some name → ∃ model, registry.get? e.entityType = some model ∧
          name = model.graphName?.getD model.entityType := by
  simp only [publicIdNodeKey, Except.bind_eq_ok_iff, pure, Except.pure, Except.ok.injEq, exists_eq_left']
  refine exists_congr fun u => ?_
  cases m.mappings.entryById? u with
  | none =>
    -- whichever type is named, what follows is a refusal
    cases expected <;> simp [throw, throwThe, MonadExceptOf.throw, Except.bind_eq_ok_iff]
  | some e =>
    cases expected with
    | none => simp
    | some name =>
      simp only [Option.isSome_some, if_true, Except.bind_eq_ok_iff, Registry.model_eq_ok_iff,
        ensureExpected_eq_ok_iff, Expects, reduceCtorEq, false_or, Except.ok.injEq, Option.some.injEq]
      constructor
      · rintro ⟨hu, model, hmodel, -, hname, hpk⟩
        exact ⟨e, hu, rfl, hpk, fun _ h => ⟨model, hmodel, h ▸ hname⟩⟩
      · rintro ⟨_, hu, rfl, hpk, hname⟩
        obtain ⟨model, hmodel, hname⟩ := hname name rfl
        exact ⟨hu, model, hmodel, (), hname, hpk⟩

theorem legacyNodeKey_eq_ok_iff (s : String) (expected : Option String) (pk : Int64) :
    legacyNodeKey s expected = .ok pk ↔
      ∃ typeName id, decodeGlobalId s = .ok (typeName, id) ∧ Expects expected typeName ∧ parseKey id = .ok pk := by
  simp only [legacyNodeKey, Except.bind_eq_ok_iff, ensureExpected_eq_ok_iff, Prod.exists]
  constructor
  · rintro ⟨typeName, id, hd, -, hexp, hpk⟩
    exact ⟨typeName, id, hd, hexp, hpk⟩
  · rintro ⟨typeName, id, hd, hexp, hpk⟩
    exact ⟨typeName, id, hd, (), hexp, hpk⟩

/-! ## From either path to the other -/

/-- An id that names the key of a row of a node type reads as that key. -/
theorem Names.nodeKey (hmodel : registry.get? model.entityType = some model) (hnode : model.IsNode typeName)
    (hexp : Expects expected typeName) (h : m.Names flag model typeName pk s expected) :
    m.nodeKey registry flag s expected = .ok pk := by
  cases h with
  | @publicId u e hflag hv4 hs he hty hpk hp =>
    have hc : isCanonicalV4 s = true := (isCanonicalV4_iff s).2 ⟨u, hv4, hs⟩
    rw [Memory.nodeKey, hc, hflag, Bool.true_and, if_pos rfl, publicIdNodeKey_eq_ok_iff]
    refine ⟨u, e, hs ▸ parsePublicId_toText u, he, hpk, fun name hname => ⟨model, hty ▸ hmodel, ?_⟩⟩
    rw [hnode.graphName?, Option.getD_some]
    exact Option.some.inj (hname.symm.trans (hexp.resolve_left (by simp [hname])))
  | key hne hdigits hval _ _ =>
    have hn : isNumeric s = true := (isNumeric_iff s).2 ⟨hne, hdigits⟩
    rw [Memory.nodeKey, not_isCanonicalV4_of_isNumeric hn, Bool.false_and, if_neg (by simp), if_pos hn]
    exact (parseKey_eq_ok_iff s pk).2 ⟨hn, hval⟩
  | @legacy id hd hpk =>
    have hc : isCanonicalV4 s = false :=
      not_isCanonicalV4_of_decode? ((decodeGlobalId_eq_ok_iff s typeName id).1 hd).1
    have hn : ¬ isNumeric s = true := by
      intro hn
      have : IdShape.numeric = IdShape.legacy := HasShape.unique (s := s) hn ⟨_, _, _, hd, hpk⟩
      cases this
    rw [Memory.nodeKey, hc, Bool.false_and, if_neg (by simp), if_neg hn, legacyNodeKey_eq_ok_iff]
    exact ⟨typeName, id, hd, hexp, hpk⟩

/-- What reads as a key of an expected node type and is no number: a public id of a row of the type's model, since no
other model goes by the name of the type, or a legacy id of the type. -/
theorem nodeKey_cases (hi : registry.Indexed) (hmodel : registry.get? model.entityType = some model)
    (hnode : model.IsNode typeName) (htag : ∀ other, registry.get? typeName = some other → other.graph ≠ none)
    (hn : isNumeric s = false) (h : m.nodeKey registry flag s (some typeName) = .ok pk) :
    (flag = true ∧ ∃ u e, u.IsV4 ∧ s = u.toText ∧ m.mappings.entryById? u = some e ∧
        e.entityType = model.entityType ∧ e.rowKey = pk) ∨
      ∃ id, decodeGlobalId s = .ok (typeName, id) ∧ parseKey id = .ok pk := by
  unfold nodeKey at h
  split at h
  next hc =>
    obtain ⟨hc, hflag⟩ := Bool.and_eq_true_iff.1 hc
    obtain ⟨u, hv4, rfl⟩ := (isCanonicalV4_iff s).1 hc
    obtain ⟨u', e, hu, he, hpk, hname⟩ := (publicIdNodeKey_eq_ok_iff _ _ _ _ _).1 h
    obtain rfl := Except.ok.inj ((parsePublicId_toText u).symm.trans hu)
    obtain ⟨other, hother, hcalled⟩ := hname typeName rfl
    have hty := Registry.get?_entityType hother
    refine .inl ⟨hflag, u, e, hv4, rfl, he, ?_, hpk⟩
    cases hgraph : other.graph with
    | none =>
      -- a model that goes by its entity type is ruled out
      have htypeName : typeName = other.entityType := by simpa [Model.graphName?, hgraph] using hcalled
      exact absurd hgraph (htag other (by rw [htypeName, hty]; exact hother))
    | some t =>
      have hshown : other.graphName? = some typeName := by simp_all [Model.graphName?]
      have hfound : registry.byGraphName? typeName = some other :=
        (hi.byGraphName?_eq_some_iff _ _).2 ⟨((hi.get?_eq_some_iff _ _).1 hother).1, hshown⟩
      obtain ⟨hfound', -⟩ := (hi.nodeModel_iff typeName model).2 ⟨hmodel, hnode⟩
      rw [← hty, Option.some.inj (hfound.symm.trans hfound')]
  next =>
    rw [if_neg (by simp [hn])] at h
    obtain ⟨name, id, hd, hexp, hpk⟩ := (legacyNodeKey_eq_ok_iff _ _ _).1 h
    obtain rfl : typeName = name := by simpa [Expects] using hexp
    exact .inr ⟨id, hd, hpk⟩

end Memory

/-- **The key path agrees with the row path**, from every reachable state and under either value of the flag. An id
with a row has the row's key. Conversely, let a text that is no number read as a key of an expected node type, whose
name is not also the tag of a model without graph type. If the row of that key is stored, then the text yields that
row; or, where the text is a canonical UUID and the model has no public ids, the error that says so. -/
theorem keyOfGlobalId_agrees_with_resolveNode (hreg : registry.Built) (moments : Nat → Moment) (w : World)
    (hw : Memory.Reachable registry w.memory) (s : String) :
    (∀ expected r, (World.run registry moments (resolveNode registry s expected) w).1 = .ok (some r) →
      (World.run registry moments (keyOfGlobalId registry s expected) w).1 = .ok r.pk) ∧
    ∀ model typeName pk r, isNumeric s = false → registry.get? model.entityType = some model →
      model.IsNode typeName → (∀ other, registry.get? typeName = some other → other.graph ≠ none) →
      (World.run registry moments (keyOfGlobalId registry s (some typeName)) w).1 = .ok pk →
      w.memory.row? model.entityType pk = some r →
      (World.run registry moments (resolveNode registry s (some typeName)) w).1 =
        if isCanonicalV4 s = true ∧ model.isPublicIdEligible = false then
          .error (.schemaInconsistency model.entityType "public_id"
            ("public id " ++ s ++ " maps to a model without public ids"))
        else .ok (some r) := by
  have hi := hreg.indexed
  have hm := hw.regular
  simp only [(reads_resolveNode registry s _).run_fst, (reads_keyOfGlobalId registry s _).run_fst]
  constructor
  · intro expected r h
    obtain ⟨model, typeName, hmodel, hnode, hexp, -, hnames⟩ := (Memory.node_eq_some_iff hi hm _ _ _ _).1 h
    exact hnames.nodeKey hmodel hnode hexp
  · intro model typeName pk r hn hmodel hnode htag h hrow
    obtain ⟨-, rfl⟩ := hm.filed _ _ _ hrow
    have found := fun hnames => (Memory.node_eq_some_iff hi hm w.flag s (some typeName) r).2
      ⟨model, typeName, hmodel, hnode, .inr rfl, hrow, hnames⟩
    rcases Memory.nodeKey_cases hi hmodel hnode htag hn h with ⟨hflag, u, e, hv4, rfl, he, hty, hpk⟩ | ⟨id, hd, hpk⟩
    · have hc : isCanonicalV4 u.toText = true := (isCanonicalV4_iff _).2 ⟨u, hv4, rfl⟩
      by_cases hp : model.isPublicIdEligible = true
      · rw [if_neg (by simp [hp])]
        exact found (.publicId hflag hv4 rfl he hty hpk hp)
      · rw [if_pos ⟨hc, by simpa using hp⟩, Memory.node_of_canonical hc, hflag, if_pos rfl, ← hty]
        exact (Memory.publicIdNode_mapped he registry _).ineligible model (hty ▸ hmodel) (by simpa using hp)
    · have hc := not_isCanonicalV4_of_decode? ((decodeGlobalId_eq_ok_iff s typeName id).1 hd).1
      rw [if_neg (by simp [hc])]
      exact found (.legacy hd hpk)

/-- Either way for the first widget: its global id has its key, and its legacy id, which reads as that key under the
type of widgets, has the widget. -/
theorem keyOfGlobalId_agrees_with_resolveNode_widget :
    (World.run .widgets (fun _ => .start) (keyOfGlobalId .widgets "00000000-0000-4000-8000-000000000000" none)
        (.widget true)).1 = .ok 1 ∧
      (World.run .widgets (fun _ => .start) (resolveNode .widgets "V2lkZ2V0OjE=" (some "Widget"))
        (.widget true)).1 = .ok (some .widget) := by
  have agrees := fun s => keyOfGlobalId_agrees_with_resolveNode Registry.built_widgets (fun _ => .start) (.widget true)
    (Memory.reachable_widget true) s
  constructor
  · exact (agrees _).1 none .widget rfl
  · exact (agrees _).2 Registry.widget "Widget" 1 .widget (by decide +kernel) rfl ⟨_, rfl, rfl, rfl⟩
      (fun _ h => by cases h) rfl rfl

end RowIdentity
