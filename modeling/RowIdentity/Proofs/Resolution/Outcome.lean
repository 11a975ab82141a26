import RowIdentity.Proofs.Resolution.RoundTrip

/-!
# What becomes of a global id

* `Memory.MappedOutcome`, `Memory.publicIdNode_mapped` — the checks behind a mapped public id, in their order;
* `canonicalId_outcome` — **what a canonical UUID yields, from every state and under either value of the flag**;
* `Memory.legacyNode_typed`, `publicIdNode_typed` — an expected type lets a row pass or refuses it;
* `typeHint_filters` — **an expected type never yields another row, and a mismatch is an error**.
-/

namespace RowIdentity

variable {registry : Registry} {m : Memory} {model : Model} {typeName name : String} {s : String} {u : Uuid}
  {e : MappingEntry} {expected : Option String} {r : Row}

/-! ## The checks that fail -/

/-- A type without the node interface is named by its graph type if it has one, else by its entity type. -/
theorem ensureNode_of_noNode (h : ∀ typeName, ¬ model.IsNode typeName) :
    ensureNode model = .error (.typeMismatch nodeInterface (model.graphName?.getD model.entityType)) := by
  cases hgraph : model.graph with
  | none => simp [ensureNode, Model.graphName?, hgraph]
  | some t =>
    have ht : t.implementsNode = false := by
      by_contra ht
      exact h t.name ⟨t, hgraph, by simpa using ht, rfl⟩
    simp [ensureNode, Model.graphName?, hgraph, ht]

theorem ensureExpected_of_ne (h : name ≠ typeName) :
    ensureExpected typeName (some name) = .error (.typeMismatch name typeName) := by
  simp [ensureExpected, h]

/-! ## Canonical UUIDs -/

namespace Memory

/-- What a public id with an entry yields: each check comes after those before it, and the row is looked up last. -/
structure MappedOutcome (registry : Registry) (m : Memory) (u : Uuid) (e : MappingEntry) (expected : Option String)
    (result : IdResult (Option Row)) : Prop where
  unregistered : registry.get? e.entityType = none → result = .error (.unknownType e.entityType)
  ineligible : ∀ model, registry.get? e.entityType = some model → model.isPublicIdEligible = false →
    result = .error (.schemaInconsistency e.entityType "public_id"
      ("public id " ++ u.toText ++ " maps to a model without public ids"))
  noNode : ∀ model, registry.get? e.entityType = some model → model.isPublicIdEligible = true →
    (∀ typeName, ¬ model.IsNode typeName) →
      result = .error (.typeMismatch "Node" (model.graphName?.getD model.entityType))
  otherType : ∀ model typeName name, registry.get? e.entityType = some model → model.isPublicIdEligible = true →
    model.IsNode typeName → expected = some name → name ≠ typeName → result = .error (.typeMismatch name typeName)
  stored : ∀ model typeName r, registry.get? e.entityType = some model → model.isPublicIdEligible = true →
    model.IsNode typeName → Expects expected typeName → m.row? e.entityType e.rowKey = some r → result = .ok (some r)
  gone : ∀ model typeName, registry.get? e.entityType = some model → model.isPublicIdEligible = true →
    model.IsNode typeName → Expects expected typeName → m.row? e.entityType e.rowKey = none → result = .ok none

theorem publicIdNode_unmapped (he : m.mappings.entryById? u = none) (registry : Registry) (expected : Option String) :
    m.publicIdNode registry u.toText expected = .ok none := by
  have hid : parsePublicId u.toText = pure u := parsePublicId_toText u
  simp only [publicIdNode, hid, pure_bind, he]
  rfl

/-- Behind an entry stand the look-up of its model, the three checks and the look-up of the row. -/
theorem publicIdNode_of_entry (he : m.mappings.entryById? u = some e) (registry : Registry)
    (expected : Option String) :
    m.publicIdNode registry u.toText expected = (do
      let model ← registry.model e.entityType
      if !model.isPublicIdEligible then
        throw (.schemaInconsistency e.entityType IdScheme.publicId.name
          ("public id " ++ u.toText ++ " maps to a model without public ids"))
      let typeName ← ensureNode model
      ensureExpected typeName expected
      return m.row? e.entityType e.rowKey) := by
  have hid : parsePublicId u.toText = pure u := parsePublicId_toText u
  simp only [publicIdNode, hid, pure_bind, he]

/-- Where the model is a node type with public ids, the expected type alone stands before the row. -/
theorem publicIdNode_of_node (he : m.mappings.entryById? u = some e) (hmodel : registry.get? e.entityType = some model)
    (hp : model.isPublicIdEligible = true) (hnode : model.IsNode typeName) (expected : Option String) :
    m.publicIdNode registry u.toText expected = (do
      ensureExpected typeName expected
      return m.row? e.entityType e.rowKey) := by
  rw [publicIdNode_of_entry he, (registry.model_eq_ok_iff _ _).2 hmodel]
  change (if (!model.isPublicIdEligible) = true then _ else (ensureNode model >>= _)) = _
  rw [hp, (ensureNode_eq_ok_iff _ _).2 hnode]
  rfl

/-- **The outcome of a mapped public id**, in the order of its checks. -/
theorem publicIdNode_mapped (he : m.mappings.entryById? u = some e) (registry : Registry) (expected : Option String) :
    MappedOutcome registry m u e expected (m.publicIdNode registry u.toText expected) where
  unregistered hmodel := by
    have hunknown : registry.model e.entityType = .error (.unknownType e.entityType) := by
      simp [Registry.model, hmodel]
    rw [publicIdNode_of_entry he, hunknown]
    rfl
  ineligible model hmodel hp := by
    rw [publicIdNode_of_entry he, (registry.model_eq_ok_iff _ _).2 hmodel]
    change (if (!model.isPublicIdEligible) = true then _ else _) = _
    rw [hp]
    rfl
  noNode model hmodel hp hnode := by
    rw [publicIdNode_of_entry he, (registry.model_eq_ok_iff _ _).2 hmodel]
    change (if (!model.isPublicIdEligible) = true then _ else (ensureNode model >>= _)) = _
    rw [hp, ensureNode_of_noNode hnode]
    rfl
  otherType model typeName name hmodel hp hnode hexp hne := by
    rw [publicIdNode_of_node he hmodel hp hnode, hexp, ensureExpected_of_ne hne]
    rfl
  stored model typeName r hmodel hp hnode hexp hrow := by
    rw [publicIdNode_of_node he hmodel hp hnode, (ensureExpected_eq_ok_iff _ _ ()).2 hexp, hrow]
    rfl
  gone model typeName hmodel hp hnode hexp hrow := by
    rw [publicIdNode_of_node he hmodel hp hnode, (ensureExpected_eq_ok_iff _ _ ()).2 hexp, hrow]
    rfl

namespace MappedOutcome

variable {result : IdResult (Option Row)}

/-- The checks leave no gap, and none of their errors is about the format. -/
theorem ne_invalidFormat (h : MappedOutcome registry m u e expected result) (value reason : String) :
    result ≠ .error (.invalidFormat value reason) := by
  rintro rfl
  cases hmodel : registry.get? e.entityType with
  | none => cases h.unregistered hmodel
  | some model =>
    cases hp : model.isPublicIdEligible with
    | false => cases h.ineligible model hmodel hp
    | true =>
      by_cases hnode : ∃ typeName, model.IsNode typeName
      · obtain ⟨typeName, hnode⟩ := hnode
        by_cases hexp : Expects expected typeName
        · cases hrow : m.row? e.entityType e.rowKey with
          | none => cases h.gone model typeName hmodel hp hnode hexp hrow
          | some r => cases h.stored model typeName r hmodel hp hnode hexp hrow
        · cases expected with
          | none => exact hexp (.inl rfl)
          | some name =>
            have hne : name ≠ typeName := fun heq => hexp (.inr (heq ▸ rfl))
            cases h.otherType model typeName name hmodel hp hnode rfl hne
      · cases h.noNode model hmodel hp (not_exists.1 hnode)

end MappedOutcome

theorem node_of_canonical (hc : isCanonicalV4 s = true) (m : Memory) (registry : Registry) (flag : Bool)
    (expected : Option String) :
    m.node registry flag s expected =
      if flag then m.publicIdNode registry s expected else .error (.invalidFormat s "not a base64 global id") := by
  rw [node, if_pos hc]

end Memory

/-- **The outcome of a canonical UUID**, whatever the state. While the flag is off it is malformed, no matter which
entries there are. While the flag is on it is never malformed: without an entry it has no row, and with one it yields
what the checks behind the entry let through. -/
theorem canonicalId_outcome (registry : Registry) (moments : Nat → Moment) (w : World) (s : String)
    (hc : isCanonicalV4 s = true) (expected : Option String) :
    (w.flag = false →
      (World.run registry moments (resolveNode registry s expected) w).1 =
        .error (.invalidFormat s "not a base64 global id")) ∧
    (w.flag = true →
      (∀ value reason, (World.run registry moments (resolveNode registry s expected) w).1 ≠
        .error (.invalidFormat value reason)) ∧
      ∃ u : Uuid, u.IsV4 ∧ s = u.toText ∧
        (w.memory.mappings.entryById? u = none →
          (World.run registry moments (resolveNode registry s expected) w).1 = .ok none) ∧
        ∀ e, w.memory.mappings.entryById? u = some e →
          w.memory.MappedOutcome registry u e expected
            (World.run registry moments (resolveNode registry s expected) w).1) := by
  rw [(reads_resolveNode registry s expected).run_fst, Memory.node_of_canonical hc]
  constructor
  · intro hflag
    rw [hflag]
    rfl
  · intro hflag
    rw [if_pos hflag]
    obtain ⟨u, hv4, rfl⟩ := (isCanonicalV4_iff s).1 hc
    refine ⟨?_, u, hv4, rfl, fun he => Memory.publicIdNode_unmapped he registry expected,
      fun e he => Memory.publicIdNode_mapped he registry expected⟩
    intro value reason
    cases he : w.memory.mappings.entryById? u with
    | none =>
      rw [Memory.publicIdNode_unmapped he]
      exact fun h => by cases h
    | some e => exact (Memory.publicIdNode_mapped he registry expected).ne_invalidFormat value reason

/-- The public id of the first widget under another type: malformed while the flag is off, else a mismatch. -/
theorem canonicalId_outcome_widget :
    isCanonicalV4 "00000000-0000-4000-8000-000000000000" = true ∧
      (World.run .widgets (fun _ => .start)
        (resolveNode .widgets "00000000-0000-4000-8000-000000000000" (some "Gadget")) (.widget false)).1 =
          .error (.invalidFormat "00000000-0000-4000-8000-000000000000" "not a base64 global id") ∧
      (World.run .widgets (fun _ => .start)
        (resolveNode .widgets "00000000-0000-4000-8000-000000000000" (some "Gadget")) (.widget true)).1 =
          .error (.typeMismatch "Gadget" "Widget") := by
  have hc : isCanonicalV4 "00000000-0000-4000-8000-000000000000" = true := by decide +kernel
  have outcome := fun flag => canonicalId_outcome .widgets (fun _ => .start) (.widget flag) _ hc (some "Gadget")
  refine ⟨hc, (outcome false).1 rfl, ?_⟩
  obtain ⟨-, u, -, hs, -, hmapped⟩ := (outcome true).2 rfl
  obtain rfl : Uuid.zeroV4 = u := Uuid.toText_inj hs
  exact (hmapped _ rfl).otherType Registry.widget "Widget" "Gadget" rfl rfl ⟨_, rfl, rfl, rfl⟩ rfl (by decide)

/-! ## Expected types -/

/-- What an expected type makes of a row, or of none, of a type: it passes, or the types are told apart. -/
def filtered (typeName : String) (found : IdResult (Option Row)) (hint : String) : IdResult (Option Row) :=
  if hint = typeName then found else .error (.typeMismatch hint typeName)

namespace Memory

variable {flag : Bool} {found : Option Row} {id : String}

/-- The Legacy strategy compares the type that the id itself gives, before anything is looked up. -/
theorem legacyNode_typed (hd : decodeGlobalId s = .ok (typeName, id)) (m : Memory) (registry : Registry)
    (hint : String) :
    m.legacyNode registry s (some hint) = filtered typeName (m.legacyNode registry s none) hint := by
  simp only [legacyNode, hd]
  change (ensureExpected typeName (some hint) >>= _) = filtered _ _ _
  by_cases heq : hint = typeName
  · rw [filtered, if_pos heq, (ensureExpected_eq_ok_iff _ _ ()).2 (.inr (heq ▸ rfl))]
    rfl
  · rw [filtered, if_neg heq, ensureExpected_of_ne heq]
    rfl

/-- The Public-ID strategy compares the type of the entry's model. -/
theorem publicIdNode_typed (he : m.mappings.entryById? u = some e) (hmodel : registry.get? e.entityType = some model)
    (hp : model.isPublicIdEligible = true) (hnode : model.IsNode typeName) (hint : String) :
    m.publicIdNode registry u.toText (some hint) =
      filtered typeName (m.publicIdNode registry u.toText none) hint := by
  rw [publicIdNode_of_node he hmodel hp hnode, publicIdNode_of_node he hmodel hp hnode]
  by_cases heq : hint = typeName
  · rw [filtered, if_pos heq, (ensureExpected_eq_ok_iff _ _ ()).2 (.inr (heq ▸ rfl))]
    rfl
  · rw [filtered, if_neg heq, ensureExpected_of_ne heq]
    rfl

/-- What is found, a row or none, is looked for under a registered node type, and every expected type is compared with
its name. -/
structure Typed (registry : Registry) (found : Option Row) (under : String → IdResult (Option Row)) (model : Model)
    (typeName : String) : Prop where
  registered : registry.get? model.entityType = some model
  node : model.IsNode typeName
  filed : ∀ r, found = some r → r.entityType = model.entityType
  hinted : ∀ hint, under hint = filtered typeName (.ok found) hint

theorem legacyNode_untyped (hi : registry.Indexed) (hm : m.Regular)
    (h : m.legacyNode registry s none = .ok found) :
    ∃ model typeName, Typed registry found (fun hint => m.legacyNode registry s (some hint)) model typeName := by
  obtain ⟨⟨typeName, id⟩, hd, hrest⟩ := (Except.bind_eq_ok_iff _ _ _).1 h
  simp only [Except.bind_eq_ok_iff, Registry.graphModel_eq_ok_iff, ensureNode_eq_ok_iff, pure, Except.pure,
    Except.ok.injEq] at hrest
  obtain ⟨-, -, model, hgraph, t, ht, pk, -, rfl⟩ := hrest
  obtain ⟨hmodel, hnode⟩ := (hi.nodeModel_iff _ _).1 ⟨hgraph, t, ht⟩
  refine ⟨model, typeName, hmodel, hnode, fun r hrow => (hm.filed _ _ _ hrow).1, fun hint => ?_⟩
  rw [legacyNode_typed hd, h]

theorem publicIdNode_untyped (hm : m.Regular) (h : m.publicIdNode registry u.toText none = .ok found) :
    (found = none ∧ ∀ hint, m.publicIdNode registry u.toText (some hint) = .ok none) ∨
      ∃ model typeName,
        Typed registry found (fun hint => m.publicIdNode registry u.toText (some hint)) model typeName := by
  cases he : m.mappings.entryById? u with
  | none =>
    rw [publicIdNode_unmapped he] at h
    exact .inl ⟨(Except.ok.inj h).symm, fun hint => publicIdNode_unmapped he registry _⟩
  | some e =>
    have hsteps := h
    rw [publicIdNode_of_entry he] at hsteps
    simp only [Except.bind_eq_ok_iff, Registry.model_eq_ok_iff, unless_throw_eq_ok_iff, ensureNode_eq_ok_iff, pure,
      Except.pure, Except.ok.injEq] at hsteps
    obtain ⟨model, hmodel, hp, typeName, hnode, -, -, rfl⟩ := hsteps
    have hty := Registry.get?_entityType hmodel
    refine .inr ⟨model, typeName, hty ▸ hmodel, hnode, fun r hrow => ?_, fun hint => ?_⟩
    · exact (hm.filed _ _ _ hrow).1.trans hty.symm
    · rw [publicIdNode_typed he hmodel hp hnode, h]

/-- **An expected type is a filter on what is found without one**; a public id without an entry has no row under any. A
number is malformed without an expected type, so the Pk strategy does not come in. -/
theorem node_untyped (hi : registry.Indexed) (hm : m.Regular) (h : m.node registry flag s none = .ok found) :
    (found = none ∧ ∀ hint, m.node registry flag s (some hint) = .ok none) ∨
      ∃ model typeName, Typed registry found (fun hint => m.node registry flag s (some hint)) model typeName := by
  by_cases hc : isCanonicalV4 s = true
  · simp only [node_of_canonical hc] at h ⊢
    cases flag with
    | false => cases h
    | true =>
      obtain ⟨u, -, rfl⟩ := (isCanonicalV4_iff s).1 hc
      exact publicIdNode_untyped hm h
  · simp only [node, if_neg hc] at h ⊢
    by_cases hn : isNumeric s = true
    · rw [if_pos hn] at h
      cases h
    · simp only [if_neg hn] at h ⊢
      exact .inr (legacyNode_untyped hi hm h)

end Memory

/-- **An expected type only filters.** From every reachable state and under every value of the flag, the row that an id
yields without an expected type is yielded under the graph type of its own model, and under every other name, registered
or not, the two types are told apart. An id that has no row without an expected type has none under any. -/
theorem typeHint_filters (hreg : registry.Built) (moments : Nat → Moment) (w : World)
    (hw : Memory.Reachable registry w.memory) (s : String) :
    (∀ r, (World.run registry moments (resolveNode registry s none) w).1 = .ok (some r) →
      ∃ model typeName, registry.get? r.entityType = some model ∧ model.graphName? = some typeName ∧
        ∀ hint, (World.run registry moments (resolveNode registry s (some hint)) w).1 =
          if hint = typeName then .ok (some r) else .error (.typeMismatch hint typeName)) ∧
    ((World.run registry moments (resolveNode registry s none) w).1 = .ok none →
      ∀ hint, (World.run registry moments (resolveNode registry s (some hint)) w).1 = .ok none ∨
        ∃ typeName, (World.run registry moments (resolveNode registry s (some hint)) w).1 =
          .error (.typeMismatch hint typeName)) := by
  have hreads : ∀ expected, (World.run registry moments (resolveNode registry s expected) w).1 =
      w.memory.node registry w.flag s expected := fun expected => (reads_resolveNode registry s expected).run_fst w
  simp only [hreads]
  constructor
  · intro r h
    rcases Memory.node_untyped hreg.indexed hw.regular h with ⟨hnone, -⟩ | ⟨model, typeName, htyped⟩
    · cases hnone
    · refine ⟨model, typeName, ?_, htyped.node.graphName?, htyped.hinted⟩
      rw [htyped.filed r rfl]
      exact htyped.registered
  · intro h hint
    rcases Memory.node_untyped hreg.indexed hw.regular h with ⟨-, hnone⟩ | ⟨model, typeName, htyped⟩
    · exact .inl (hnone hint)
    · have hhint := htyped.hinted hint
      unfold filtered at hhint
      split at hhint
      · exact .inl hhint
      · exact .inr ⟨typeName, hhint⟩

/-- The first widget is no gadget, and there are no gadgets. -/
theorem typeHint_filters_widget :
    (World.run .widgets (fun _ => .start) (resolveNode .widgets "V2lkZ2V0OjE=" none) (.widget true)).1 =
        .ok (some .widget) ∧
      (World.run .widgets (fun _ => .start) (resolveNode .widgets "V2lkZ2V0OjE=" (some "Widget")) (.widget true)).1 =
        .ok (some .widget) ∧
      (World.run .widgets (fun _ => .start) (resolveNode .widgets "V2lkZ2V0OjE=" (some "Gadget")) (.widget true)).1 =
        .error (.typeMismatch "Gadget" "Widget") := by
  have hfound : (World.run .widgets (fun _ => .start) (resolveNode .widgets "V2lkZ2V0OjE=" none) (.widget true)).1 =
      .ok (some .widget) := by
    rw [(reads_resolveNode _ _ _).run_fst,
      Memory.node_eq_some_iff Registry.built_widgets.indexed (Memory.reachable_widget true).regular]
    refine ⟨Registry.widget, "Widget", rfl, ⟨_, rfl, rfl, rfl⟩, .inl rfl, rfl, ?_⟩
    exact .legacy (show decodeGlobalId "V2lkZ2V0OjE=" = .ok ("Widget", "1") by decide +kernel) (by decide +kernel)
  obtain ⟨model, typeName, hmodel, hname, hhint⟩ := (typeHint_filters Registry.built_widgets (fun _ => .start)
    (.widget true) (Memory.reachable_widget true) _).1 _ hfound
  obtain rfl : Registry.widget = model := Option.some.inj hmodel
  obtain rfl : "Widget" = typeName := Option.some.inj hname
  exact ⟨hfound, hhint "Widget", hhint "Gadget"⟩

end RowIdentity
