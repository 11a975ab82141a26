import RowIdentity.Proofs.Resolution.Outcome

/-!
# Path segments and global ids name the same rows

* `Memory.lookup`, `lookupBy`, `reads_resolveLookup` — what a path segment reads, as a plain distinction of the three
  shapes;
* `Memory.lookup_canonical_iff`, `lookup_numeric_iff`, `lookup_legacy_iff` — the keys that each shape stands for;
* `Memory.node_numeric_refused`, `node_canonical_refused` — the two errors that only global ids meet;
* `Memory.lookup_of_node`, `node_of_lookup` — from either reading to the other;
* `resolveLookup_agrees_with_resolveNode` — **outside of three refusals, a path segment of a model and a global id of
  its graph type mean the same row**.
-/

namespace RowIdentity

variable {registry : Registry} {moments : Nat → Moment} {m : Memory} {model : Model} {typeName : String} {s : String}
  {flag : Bool} {pk : Int64} {r : Row}

/-! ## What a path segment reads -/

/-- The error of a number where public ids are shown. -/
def rawKeyRefused (model : Model) : IdError := .typeMismatch model.entityType "a numeric primary key"

/-- The key of a legacy global id, which must be of the model's graph type. -/
def legacyKey (model : Model) (s : String) : IdResult Int64 := do
  let (typeName, key) ← decodeGlobalId s
  if model.graphName? ≠ some typeName then
    throw (.typeMismatch (model.graphName?.getD model.entityType) typeName)
  parseKey key

namespace Memory

/-- The key of a public id, whose entry must be of the model. -/
def publicIdKey (m : Memory) (model : Model) (s : String) : IdResult Int64 := do
  let publicId ← parsePublicId s
  let some entry ← pure (m.mappings.entryById? publicId) | throw (.notFound model.entityType publicId.toText)
  if entry.entityType ≠ model.entityType then throw (.typeMismatch model.entityType entry.entityType)
  return entry.rowKey

/-- The key behind a path segment: under the flag a canonical UUID is a public id; a number is a key where no public
ids are shown; everything else is a legacy id. -/
def lookup (m : Memory) (flag : Bool) (model : Model) (s : String) : IdResult Int64 :=
  if isCanonicalV4 s && flag then m.publicIdKey model s
  else if isNumeric s then
    if model.scheme flag = .publicId then .error (rawKeyRefused model) else parseKey s
  else legacyKey model s

end Memory

theorem reads_publicId_keyOf (model : Model) (s : String) :
    Action.Reads (IdScheme.publicId.keyOf s (some model)) fun m _ => m.publicIdKey model s := by
  refine Action.Reads.bind (.result _) fun publicId => ?_
  refine Action.Reads.bind (.entryById _) fun entry? => ?_
  cases entry? with
  | none => exact Action.Reads.throw _
  | some entry => exact Action.Reads.ite (.throw _) (.pure _)

theorem reads_legacy_keyOf (model : Model) (hn : isNumeric s = false) :
    Action.Reads (IdScheme.legacy.keyOf s (some model)) fun _ _ => legacyKey model s := by
  simp only [IdScheme.keyOf, hn, Bool.false_eq_true, if_false]
  refine Action.Reads.bind (.result _) fun ⟨typeName, key⟩ => ?_
  exact Action.Reads.ite (.throw _) (.result _)

/-- A number is read alike under all schemes that take one. -/
theorem reads_numeric_keyOf {scheme : IdScheme} (hscheme : scheme ≠ .publicId) (model : Model)
    (hn : isNumeric s = true) : Action.Reads (scheme.keyOf s (some model)) fun _ _ => parseKey s := by
  cases scheme with
  | publicId => exact absurd rfl hscheme
  | pk => exact .result _
  | legacy =>
    simp only [IdScheme.keyOf, hn, if_true]
    exact .result _

/-- What a path segment comes to under a scheme, once it is known whether it is taken for a public id. -/
def lookupBy (model : Model) (s : String) (scheme : IdScheme) (isPublic : Bool) : Action Int64 :=
  if isPublic then IdScheme.publicId.keyOf s (some model)
  else if isNumeric s then
    if scheme = .publicId then throw (rawKeyRefused model) else scheme.keyOf s (some model)
  else IdScheme.legacy.keyOf s (some model)

theorem resolveLookup_eq (model : Model) (s : String) :
    resolveLookup model s = (do
      let scheme ← currentScheme model
      let isPublic ← if isCanonicalV4 s then publicIdEnabled else pure false
      lookupBy model s scheme isPublic) := rfl

theorem reads_lookupBy (model : Model) (s : String) (scheme : IdScheme) (isPublic : Bool) :
    Action.Reads (lookupBy model s scheme isPublic) fun m _ =>
      if isPublic then m.publicIdKey model s
      else if isNumeric s then
        if scheme = .publicId then .error (rawKeyRefused model) else parseKey s
      else legacyKey model s := by
  refine Action.Reads.ite (reads_publicId_keyOf model s) ?_
  by_cases hn : isNumeric s = true
  · simp only [hn, if_true]
    by_cases hs : scheme = .publicId
    · simp only [hs, if_true]
      exact .throw _
    · simp only [hs, if_false]
      exact reads_numeric_keyOf hs model hn
  · simp only [hn, Bool.false_eq_true, if_false]
    exact reads_legacy_keyOf model (by simpa using hn)

/-- **A path segment is read by its shape**; the scheme of the model matters for numbers alone. -/
theorem reads_resolveLookup (model : Model) (s : String) :
    Action.Reads (resolveLookup model s) fun m flag => m.lookup flag model s := by
  have hscheme : Action.Reads (currentScheme model) fun _ flag => .ok (model.scheme flag) :=
    fun _ _ w => ⟨w.calls + 1, rfl⟩
  have hflag := fun scheme => Action.Reads.ite (c := isCanonicalV4 s = true)
    (Action.Reads.bind .publicIdEnabled (reads_lookupBy model s scheme))
    (Action.Reads.bind (.pure false) (reads_lookupBy model s scheme))
  refine (Action.Reads.bind hscheme hflag).congr fun m flag => ?_
  unfold Memory.lookup
  cases isCanonicalV4 s with
  | true => rfl
  | false => rfl

/-! ## The keys each shape stands for -/

theorem Memory.publicIdKey_eq_ok_iff (m : Memory) (model : Model) (s : String) (pk : Int64) :
    m.publicIdKey model s = .ok pk ↔
      ∃ u e, parsePublicId s = .ok u ∧ m.mappings.entryById? u = some e ∧ e.entityType = model.entityType ∧
        e.rowKey = pk := by
  simp only [Memory.publicIdKey, Except.bind_eq_ok_iff, pure, Except.pure, Except.ok.injEq, exists_eq_left']
  refine exists_congr fun u => ?_
  cases m.mappings.entryById? u with
  | none => simp [throw, throwThe, MonadExceptOf.throw]
  | some e =>
    by_cases hty : e.entityType = model.entityType
    · simp [hty]
    · simp [hty, throw, throwThe, MonadExceptOf.throw, bind, Except.bind]

theorem legacyKey_eq_ok_iff (model : Model) (s : String) (pk : Int64) :
    legacyKey model s = .ok pk ↔
      ∃ typeName id, decodeGlobalId s = .ok (typeName, id) ∧ model.graphName? = some typeName ∧
        parseKey id = .ok pk := by
  simp only [legacyKey, Except.bind_eq_ok_iff, Prod.exists]
  refine exists_congr fun typeName => exists_congr fun id => and_congr_right fun _ => ?_
  by_cases hname : model.graphName? = some typeName
  · simp [hname]
  · simp [hname, throw, throwThe, MonadExceptOf.throw, bind, Except.bind]

namespace Memory

theorem lookup_canonical_iff (hc : isCanonicalV4 s = true) :
    m.lookup flag model s = .ok pk ↔
      flag = true ∧ ∃ u e, parsePublicId s = .ok u ∧ m.mappings.entryById? u = some e ∧
        e.entityType = model.entityType ∧ e.rowKey = pk := by
  have hyphen := hyphen_mem_of_isCanonicalV4 hc
  have hlegacy : legacyKey model s ≠ .ok pk := by
    rw [Ne, legacyKey_eq_ok_iff, decodeGlobalId_of_hyphen hyphen]
    simp
  unfold lookup
  cases flag with
  | true => simp [hc, publicIdKey_eq_ok_iff]
  | false => simp [not_isNumeric_of_hyphen hyphen, hlegacy]

theorem lookup_numeric_iff (hc : ¬ isCanonicalV4 s = true) (hn : isNumeric s = true) :
    m.lookup flag model s = .ok pk ↔ model.scheme flag ≠ .publicId ∧ parseKey s = .ok pk := by
  unfold lookup
  by_cases hscheme : model.scheme flag = .publicId
  · simp [hc, hn, hscheme]
  · simp [hc, hn, hscheme]

theorem lookup_legacy_iff (hc : ¬ isCanonicalV4 s = true) (hn : ¬ isNumeric s = true) :
    m.lookup flag model s = .ok pk ↔
      ∃ typeName id, decodeGlobalId s = .ok (typeName, id) ∧ model.graphName? = some typeName ∧
        parseKey id = .ok pk := by
  simp only [lookup, hc, hn, Bool.false_and, Bool.false_eq_true, if_false, legacyKey_eq_ok_iff]

/-! ## Where the two readings part -/

/-- The error of a number under a type whose model is not identified by numbers. -/
theorem node_numeric_refused (htype : registry.byGraphName? typeName = some model) (hn : isNumeric s = true)
    (hpk : model.isPkEligible = false) (m : Memory) (flag : Bool) :
    m.node registry flag s (some typeName) = .error (.typeMismatch typeName "a numeric primary key") := by
  have hgraph : registry.graphModel typeName = .ok model := (Registry.graphModel_eq_ok_iff _ _ _).2 htype
  unfold node pkNode
  rw [if_neg (by simp [not_isCanonicalV4_of_isNumeric hn]), if_pos hn]
  change (registry.graphModel typeName >>= _) = _
  rw [hgraph]
  change (if (!model.isPkEligible) = true then _ else _) = _
  rw [hpk]
  rfl

/-- The error of a public id whose entry belongs to a model without public ids. -/
theorem node_canonical_refused (hc : isCanonicalV4 s = true) {u : Uuid} {e : MappingEntry}
    (hu : parsePublicId s = .ok u) (he : m.mappings.entryById? u = some e)
    (hmodel : registry.get? e.entityType = some model) (hp : model.isPublicIdEligible = false)
    (expected : Option String) :
    m.node registry true s expected =
      .error (.schemaInconsistency e.entityType IdScheme.publicId.name
        ("public id " ++ u.toText ++ " maps to a model without public ids")) := by
  obtain ⟨v, -, rfl⟩ := (isCanonicalV4_iff s).1 hc
  obtain rfl : v = u := Except.ok.inj ((parsePublicId_toText v).symm.trans hu)
  rw [node_of_canonical hc, if_pos rfl]
  exact (publicIdNode_mapped he registry expected).ineligible model hmodel hp

/-- The row that a global id of a model's own type yields is stored under the model, and the id names it. -/
theorem node_of_model (hi : registry.Indexed) (hm : m.Regular) (hmodel : registry.get? model.entityType = some model)
    (hnode : model.IsNode typeName) (h : m.node registry flag s (some typeName) = .ok (some r)) :
    m.row? model.entityType r.pk = some r ∧ m.Names flag model typeName r.pk s (some typeName) := by
  obtain ⟨model', typeName', hmodel', hnode', hexp, hrow, hnames⟩ := (node_eq_some_iff hi hm _ _ _ _).1 h
  obtain rfl : typeName' = typeName := by
    rcases hexp with hexp | hexp
    · cases hexp
    · exact (Option.some.inj hexp).symm
  -- graph type names are unique in a registry, so the type has one model
  have hone := ((hi.nodeModel_iff _ _).2 ⟨hmodel, hnode⟩).1
  rw [((hi.nodeModel_iff _ _).2 ⟨hmodel', hnode'⟩).1] at hone
  obtain rfl := Option.some.inj hone
  exact ⟨hrow, hnames⟩

/-! ## Where they agree -/

/-- What a global id of the model's type yields is what a path segment stands for. -/
theorem lookup_of_node (hi : registry.Indexed) (hm : m.Regular) (hmodel : registry.get? model.entityType = some model)
    (hnode : model.IsNode typeName) (h : m.node registry flag s (some typeName) = .ok (some r)) :
    m.lookup flag model s =
      if isNumeric s = true ∧ model.scheme flag = .publicId then .error (rawKeyRefused model) else .ok r.pk := by
  obtain ⟨-, hnames⟩ := node_of_model hi hm hmodel hnode h
  by_cases hc : isCanonicalV4 s = true
  · obtain ⟨hflag, u, e, hu, he, hty, hpk, -⟩ := (Names.canonical_iff hc).1 hnames
    have hn := not_isNumeric_of_hyphen (hyphen_mem_of_isCanonicalV4 hc)
    rw [if_neg (by simp [hn])]
    exact (lookup_canonical_iff hc).2 ⟨hflag, u, e, hu, he, hty, hpk⟩
  · by_cases hn : isNumeric s = true
    · obtain ⟨hpk, -, -⟩ := (Names.numeric_iff hc hn).1 hnames
      by_cases hscheme : model.scheme flag = .publicId
      · rw [if_pos ⟨hn, hscheme⟩]
        simp [lookup, hc, hn, hscheme]
      · rw [if_neg fun h => hscheme h.2]
        exact (lookup_numeric_iff hc hn).2 ⟨hscheme, hpk⟩
    · obtain ⟨id, hd, hpk⟩ := (Names.legacy_iff hc hn).1 hnames
      rw [if_neg fun h => hn h.1]
      exact (lookup_legacy_iff hc hn).2 ⟨typeName, id, hd, hnode.graphName?, hpk⟩

/-- The row of a key that a path segment stands for is what a global id of the model's type yields. -/
theorem node_of_lookup (hi : registry.Indexed) (hm : m.Regular) (hmodel : registry.get? model.entityType = some model)
    (hnode : model.IsNode typeName) (h : m.lookup flag model s = .ok pk) (hrow : m.row? model.entityType pk = some r) :
    m.node registry flag s (some typeName) =
      if isNumeric s = true ∧ model.isPkEligible = false then
        .error (.typeMismatch typeName "a numeric primary key")
      else if isCanonicalV4 s = true ∧ model.isPublicIdEligible = false then
        .error (.schemaInconsistency model.entityType "public_id"
          ("public id " ++ s ++ " maps to a model without public ids"))
      else .ok (some r) := by
  obtain ⟨-, rfl⟩ := hm.filed _ _ _ hrow
  -- outside of the refusals it is enough that the id names the key
  have hyields : m.Names flag model typeName r.pk s (some typeName) →
      m.node registry flag s (some typeName) = .ok (some r) := fun hnames =>
    (node_eq_row_iff hi hm hmodel hnode hrow _ _ _).2 ⟨.inr rfl, hnames⟩
  by_cases hc : isCanonicalV4 s = true
  · obtain ⟨hflag, u, e, hu, he, hty, hpk⟩ := (lookup_canonical_iff hc).1 h
    have hn := not_isNumeric_of_hyphen (hyphen_mem_of_isCanonicalV4 hc)
    rw [if_neg (by simp [hn])]
    cases hp : model.isPublicIdEligible with
    | false =>
      have hs : s = u.toText := by
        obtain ⟨v, -, hv⟩ := (isCanonicalV4_iff s).1 hc
        rw [hv, parsePublicId_toText] at hu
        rw [hv, Except.ok.inj hu]
      rw [if_pos ⟨hc, rfl⟩, hflag, node_canonical_refused hc hu he (hty.symm ▸ hmodel) hp, hty, ← hs]
      rfl
    | true =>
      rw [if_neg (by simp)]
      exact hyields ((Names.canonical_iff hc).2 ⟨hflag, u, e, hu, he, hty, hpk, hp⟩)
  · rw [if_neg (c := isCanonicalV4 s = true ∧ _) fun h => hc h.1]
    by_cases hn : isNumeric s = true
    · obtain ⟨-, hpk⟩ := (lookup_numeric_iff hc hn).1 h
      cases hp : model.isPkEligible with
      | false =>
        rw [if_pos ⟨hn, rfl⟩]
        exact node_numeric_refused ((hi.nodeModel_iff _ _).2 ⟨hmodel, hnode⟩).1 hn hp m flag
      | true =>
        rw [if_neg (by simp)]
        exact hyields ((Names.numeric_iff hc hn).2 ⟨hpk, rfl, hp⟩)
    · obtain ⟨name, id, hd, hname, hpk⟩ := (lookup_legacy_iff hc hn).1 h
      obtain rfl := Option.some.inj (hname.symm.trans hnode.graphName?)
      rw [if_neg fun h => hn h.1]
      exact hyields ((Names.legacy_iff hc hn).2 ⟨id, hd, hpk⟩)

end Memory

/-- **Path segments and global ids agree.** From every reachable state and under every value of the flag, what a
global id of a model's node type yields is what a path segment of the model stands for, unless it is a number where
public ids are shown. The stored row of a key that a path segment stands for is what the global id yields, unless it
is a number and the model is not identified by numbers, or a canonical UUID and the model has no public ids; there the
errors are these. -/
theorem resolveLookup_agrees_with_resolveNode (hreg : registry.Built) (moments : Nat → Moment) (w : World)
    (hw : Memory.Reachable registry w.memory) (model : Model) (typeName s : String)
    (hmodel : registry.get? model.entityType = some model) (hnode : model.IsNode typeName) :
    (∀ r, (World.run registry moments (resolveNode registry s (some typeName)) w).1 = .ok (some r) →
      (World.run registry moments (resolveLookup model s) w).1 =
        if isNumeric s = true ∧ model.scheme w.flag = .publicId then
          .error (.typeMismatch model.entityType "a numeric primary key")
        else .ok r.pk) ∧
    (∀ pk r, (World.run registry moments (resolveLookup model s) w).1 = .ok pk →
      w.memory.row? model.entityType pk = some r →
      (World.run registry moments (resolveNode registry s (some typeName)) w).1 =
        if isNumeric s = true ∧ model.isPkEligible = false then
          .error (.typeMismatch typeName "a numeric primary key")
        else if isCanonicalV4 s = true ∧ model.isPublicIdEligible = false then
          .error (.schemaInconsistency model.entityType "public_id"
            ("public id " ++ s ++ " maps to a model without public ids"))
        else .ok (some r)) := by
  rw [(reads_resolveNode registry s _).run_fst, (reads_resolveLookup model s).run_fst]
  constructor
  · intro r h
    exact Memory.lookup_of_node hreg.indexed hw.regular hmodel hnode h
  · intro pk r h hrow
    exact Memory.node_of_lookup hreg.indexed hw.regular hmodel hnode h hrow

/-- The public id of the first widget means its key in a path and the widget itself to graph clients. -/
theorem resolveLookup_agrees_with_resolveNode_widget :
    (World.run .widgets (fun _ => .start)
        (resolveNode .widgets "00000000-0000-4000-8000-000000000000" (some "Widget")) (.widget true)).1 =
      .ok (some .widget) ∧
    (World.run .widgets (fun _ => .start)
        (resolveLookup Registry.widget "00000000-0000-4000-8000-000000000000") (.widget true)).1 = .ok 1 := by
  have hagree := resolveLookup_agrees_with_resolveNode Registry.built_widgets (fun _ => .start) (.widget true)
    (Memory.reachable_widget true) Registry.widget "Widget" "00000000-0000-4000-8000-000000000000" rfl
    ⟨_, rfl, rfl, rfl⟩
  have hlookup : (World.run .widgets (fun _ => .start)
      (resolveLookup Registry.widget "00000000-0000-4000-8000-000000000000") (.widget true)).1 = .ok 1 := by
    rfl
  exact ⟨hagree.2 1 .widget hlookup rfl, hlookup⟩

end RowIdentity
