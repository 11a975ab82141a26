import Mathlib.Data.List.Nodup
import Mathlib.Tactic.TFAE
import RowIdentity.Graph.Execution
import RowIdentity.Proofs.Registration
import RowIdentity.Proofs.Resolution.Node

/-!
# The root fields of types

* `Graph.rootType?_eq_some_iff` — the type of a field: the first one whose name has it as its small form;
* `Graph.Owns` — a type has a field of its own: its small name is not reserved, and no type before it has the same;
* `Memory.pkNode_one` — what the number 1 comes to under a type, by which types are told apart;
* `Graph.typedField_exact` — **a field looks up nodes of a type exactly when the type owns it**, and a field of no type
  is refused;
* `Graph.forall_owns_iff` — **all types own their fields when their small names are apart and none is reserved**.
-/

namespace RowIdentity

variable {registry : Registry}

/-- The names of the graph types, in the order of registration. -/
def Registry.typeNames (registry : Registry) : List String := registry.models.filterMap Model.graphName?

theorem Registry.Indexed.mem_typeNames_iff (h : registry.Indexed) (typeName : String) :
    typeName ∈ registry.typeNames ↔ ∃ model, registry.byGraphName? typeName = some model := by
  simp only [h.byGraphName?_eq_some_iff]
  exact List.mem_filterMap

theorem Registry.Indexed.nodup_typeNames (h : registry.Indexed) : registry.typeNames.Nodup := by
  have hnames : registry.graphIndex.map (·.1) = registry.typeNames := by
    rw [h.graphIndex, List.map_filterMap]
    refine List.filterMap_congr fun model _ => ?_
    cases model.graphName? <;> rfl
  exact hnames ▸ h.graphNames

namespace Graph

/-! ## Whose a field is -/

/-- The type of a field is the first one with this small name. -/
theorem rootType?_eq_some_iff (registry : Registry) (name typeName : String) :
    rootType? registry name = some typeName ↔
      lowerFirst typeName = name ∧ ∃ front back, registry.typeNames = front ++ typeName :: back ∧
        ∀ t ∈ front, lowerFirst t ≠ name := by
  rw [rootType?, List.find?_eq_some_iff_append]
  simp [Registry.typeNames]

theorem rootType?_eq_none_iff (registry : Registry) (name : String) :
    rootType? registry name = none ↔ ∀ t ∈ registry.typeNames, lowerFirst t ≠ name := by
  rw [rootType?, List.find?_eq_none]
  simp [Registry.typeNames]

/-- The small name of a type is the field of some type. -/
theorem exists_rootType? {typeName : String} (h : typeName ∈ registry.typeNames) :
    ∃ t ∈ registry.typeNames, lowerFirst t = lowerFirst typeName ∧
      rootType? registry (lowerFirst typeName) = some t := by
  cases hroot : rootType? registry (lowerFirst typeName) with
  | none => exact absurd rfl ((rootType?_eq_none_iff _ _).1 hroot typeName h)
  | some t =>
    obtain ⟨hsmall, front, back, hnames, -⟩ := (rootType?_eq_some_iff _ _ _).1 hroot
    exact ⟨t, hnames ▸ List.mem_append_right _ List.mem_cons_self, hsmall, rfl⟩

/-- The type has a field of its own: its small name is not that of nodes, and no type before it has the same. -/
def Owns (registry : Registry) (typeName : String) : Prop :=
  lowerFirst typeName ≠ "node" ∧ ∃ front back, registry.typeNames = front ++ typeName :: back ∧
    ∀ t ∈ front, lowerFirst t ≠ lowerFirst typeName

theorem owns_iff (registry : Registry) (typeName : String) :
    Owns registry typeName ↔
      lowerFirst typeName ≠ "node" ∧ rootType? registry (lowerFirst typeName) = some typeName := by
  rw [rootType?_eq_some_iff, Owns]
  simp only [true_and]

end Graph

/-! ## Types are told apart by a number -/

/-- Under a type the number 1 comes to the row of its model, or to a mismatch that names the type. -/
theorem Memory.pkNode_one_cases {model : Model} {typeName : String} (hi : registry.Indexed)
    (htype : registry.byGraphName? typeName = some model) (m : Memory) :
    m.pkNode registry "1" (some typeName) = .ok (m.row? model.entityType 1) ∨
      m.pkNode registry "1" (some typeName) = .error (.typeMismatch typeName "a numeric primary key") ∨
      m.pkNode registry "1" (some typeName) = .error (.typeMismatch nodeInterface typeName) := by
  obtain ⟨-, hname⟩ := (hi.byGraphName?_eq_some_iff _ _).1 htype
  obtain ⟨t, ht, rfl⟩ := Option.map_eq_some_iff.1 hname
  have hmodel : registry.graphModel t.name = .ok model := (registry.graphModel_eq_ok_iff _ _).2 htype
  have hkey : parseKey "1" = .ok 1 := by decide +kernel
  simp only [pkNode, hmodel, hkey, bind, Except.bind, ensureNode, ht]
  cases model.isPkEligible with
  | false => exact .inr (.inl rfl)
  | true =>
    cases t.implementsNode with
    | false => exact .inr (.inr rfl)
    | true => exact .inl rfl

theorem Memory.pkNode_none (m : Memory) (s : String) : m.pkNode registry s none = .error (untypedNumber s) := rfl

/-- A state that holds one row, under the key 1. -/
def Memory.single (ty : String) : Memory := (Memory.empty.load ⟨0, 0⟩ ty [(1, .null)]).2

theorem Memory.reachable_single (registry : Registry) (ty : String) : Reachable registry (single ty) :=
  .load _ _ _ .empty

theorem Memory.row?_single (ty ty' : String) :
    (single ty).row? ty' 1 = if ty = ty' then some ⟨ty, 1, .null, ⟨0, 0⟩⟩ else none := by
  by_cases h : ty = ty'
  · simp [single, load, putRow, setSequence, row?, table, empty, h, Assoc.putSorted]
  · simp [single, load, putRow, setSequence, row?, table, empty, h]

/-- **Two types with one small name are told apart**: in some state the number 1 comes to something else under them. -/
theorem pkNode_one_ne {typeName typeName' : String} (hi : registry.Indexed) {model model' : Model}
    (htype : registry.byGraphName? typeName = some model) (htype' : registry.byGraphName? typeName' = some model')
    (hne : typeName ≠ typeName') (hsmall : Graph.lowerFirst typeName = Graph.lowerFirst typeName')
    (hnode : Graph.lowerFirst typeName ≠ "node") :
    (Memory.single model.entityType).pkNode registry "1" (some typeName') ≠
      (Memory.single model.entityType).pkNode registry "1" (some typeName) := by
  obtain ⟨hmem, hname⟩ := (hi.byGraphName?_eq_some_iff _ _).1 htype
  obtain ⟨hmem', hname'⟩ := (hi.byGraphName?_eq_some_iff _ _).1 htype'
  have hentity : model.entityType ≠ model'.entityType := by
    intro hty
    obtain rfl := List.inj_on_of_nodup_map hi.types hmem hmem' hty
    exact hne (Option.some.inj (hname.symm.trans hname'))
  -- a type by the name of the interface would have the small name of nodes
  have hreserved {name : String} (h : Graph.lowerFirst name ≠ "node") : name ≠ nodeInterface := by
    rintro rfl
    exact h (by decide +kernel)
  have hinterface := hreserved hnode
  have hinterface' := hreserved (hsmall ▸ hnode)
  have hrow := Memory.row?_single model.entityType model.entityType
  have hnone := Memory.row?_single model.entityType model'.entityType
  rw [if_pos rfl] at hrow
  rw [if_neg hentity] at hnone
  rcases Memory.pkNode_one_cases hi htype (.single model.entityType) with h | h | h <;>
    rcases Memory.pkNode_one_cases hi htype' (.single model.entityType) with h' | h' | h' <;>
    simp [h, h', hrow, hnone, hne.symm, hinterface.symm, hinterface']

namespace Graph

/-! ## What a field looks up -/

/-- What is shown of the row that a root field found. -/
def nodeValue (registry : Registry) (f : Field) : Option Row → Action Json
  | none => return .null
  | some row => do
    let model ← registry.model row.entityType
    return .obj (← objectFields registry model row f.selected)

theorem rootValue_eq (registry : Registry) (vars : Variables) (f : Field) :
    rootValue registry vars f = (do nodeValue registry f (← rootRow registry f (← idArgument vars f))) := rfl

theorem rootRow_node (registry : Registry) {f : Field} (h : f.name = "node") (id : String) :
    rootRow registry f id = resolveNode registry id none := by
  rw [rootRow, if_pos h]

theorem rootRow_of_owns {typeName : String} (h : Owns registry typeName) {f : Field}
    (hf : f.name = lowerFirst typeName) (id : String) :
    rootRow registry f id = resolveNode registry id (some typeName) := by
  obtain ⟨hnode, htype⟩ := (owns_iff registry typeName).1 h
  rw [rootRow, hf, if_neg hnode, htype]

/-- The number 1 is looked up as it is, whatever type is expected. -/
theorem run_resolveNode_one (registry : Registry) (moments : Nat → Moment) (expected : Option String) (w : World) :
    (World.run registry moments (resolveNode registry "1" expected) w).1 = w.memory.pkNode registry "1" expected := by
  rw [(reads_resolveNode registry "1" expected).run_fst]
  rfl

/-- A field that looks up nodes of the type in every reachable state is its own. -/
theorem owns_of_results (hi : registry.Indexed) {typeName : String} (hname : typeName ∈ registry.typeNames)
    (h : ∀ (f : Field) (id : String), f.name = lowerFirst typeName → ∀ (moments : Nat → Moment) (w : World),
      Memory.Reachable registry w.memory → (World.run registry moments (rootRow registry f id) w).1 =
        (World.run registry moments (resolveNode registry id (some typeName)) w).1) :
    Owns registry typeName := by
  obtain ⟨model, htype⟩ := (hi.mem_typeNames_iff typeName).1 hname
  -- the number 1 in a state that holds one row of the model
  let f : Field := ⟨none, lowerFirst typeName, [], []⟩
  let w : World := ⟨.single model.entityType, .of true, 0⟩
  have hone := h f "1" rfl (fun _ => .start) w (Memory.reachable_single registry _)
  rw [run_resolveNode_one] at hone
  have hnode : lowerFirst typeName ≠ "node" := by
    intro hnode
    rw [rootRow_node registry (f := f) hnode, run_resolveNode_one, Memory.pkNode_none, untypedNumber] at hone
    rcases Memory.pkNode_one_cases hi htype w.memory with h | h | h <;> simp [h] at hone
  obtain ⟨typeName', hname', hsmall, hroot⟩ := exists_rootType? hname
  obtain ⟨model', htype'⟩ := (hi.mem_typeNames_iff typeName').1 hname'
  rw [rootRow, if_neg hnode, hroot, run_resolveNode_one] at hone
  obtain rfl : typeName = typeName' := by
    by_contra hne
    exact pkNode_one_ne hi htype htype' hne hsmall.symm hnode hone
  exact (owns_iff registry typeName).2 ⟨hnode, hroot⟩

/-- **All types own their fields** exactly when their small names are apart and none of them is that of nodes. -/
theorem forall_owns_iff (hi : registry.Indexed) :
    (∀ typeName ∈ registry.typeNames, Owns registry typeName) ↔
      ("node" :: registry.typeNames.map lowerFirst).Nodup := by
  rw [List.nodup_cons]
  constructor
  · intro h
    refine ⟨fun hnode => ?_, hi.nodup_typeNames.map_on fun t ht t' ht' hsmall => ?_⟩
    · obtain ⟨t, ht, hsmall⟩ := List.mem_map.1 hnode
      exact (h t ht).1 hsmall
    · have hfirst := ((owns_iff registry t).1 (h t ht)).2
      have hfirst' := ((owns_iff registry t').1 (h t' ht')).2
      exact Option.some.inj (hfirst.symm.trans (hsmall ▸ hfirst'))
  · rintro ⟨hnode, hnodup⟩ typeName hname
    refine (owns_iff registry typeName).2 ⟨fun h => hnode (List.mem_map.2 ⟨typeName, hname, h⟩), ?_⟩
    obtain ⟨t, ht, hsmall, hroot⟩ := exists_rootType? hname
    rw [hroot, List.inj_on_of_nodup_map hnodup ht hname hsmall]

/-! ## Fields of no type -/

theorem idArgument_eq_error {vars : Variables} {f : Field} {e : IdError} (h : idArgument vars f = .error e) :
    ∃ value reason, e = .invalidFormat value reason := by
  unfold idArgument at h
  split at h
  · cases h
    exact ⟨_, _, rfl⟩
  · cases h
  · cases h
  · split at h
    · cases h
    · cases h
    · cases h
    · cases h
      exact ⟨_, _, rfl⟩
  · cases h
    exact ⟨_, _, rfl⟩

/-- A field of no type is refused, whatever id it is given. -/
theorem rootValue_of_unknown (vars : Variables) {f : Field} (hnode : f.name ≠ "node")
    (hnone : ∀ t ∈ registry.typeNames, lowerFirst t ≠ f.name) :
    ∃ value reason, rootValue registry vars f = throw (.invalidFormat value reason) := by
  rw [rootValue_eq]
  cases hid : idArgument vars f with
  | error e =>
    obtain ⟨value, reason, rfl⟩ := idArgument_eq_error hid
    exact ⟨value, reason, rfl⟩
  | ok id =>
    have hrow : rootRow registry f id = throw (.invalidFormat f.name "unknown query field") := by
      rw [rootRow, if_neg hnode, (rootType?_eq_none_iff registry f.name).2 hnone]
    refine ⟨f.name, "unknown query field", ?_⟩
    change (rootRow registry f id >>= nodeValue registry f) = _
    rw [hrow]
    rfl

/-- **A root field looks up nodes of a type exactly when the type owns it.** In every registry that registration made,
the field with the small name of a registered type is resolved under that type, as a program, when this name is not
that of nodes and no type before it has the same; and already when its results are those of the type in all reachable
states, this is so. The field of nodes is resolved under no type, and any other field is refused for its format. -/
theorem typedField_exact (hreg : registry.Built) :
    (∀ model ∈ registry.models, ∀ typeName, model.graphName? = some typeName → List.TFAE [
      ∀ (f : Field) (id : String), f.name = lowerFirst typeName →
        rootRow registry f id = resolveNode registry id (some typeName),
      ∀ (f : Field) (id : String), f.name = lowerFirst typeName → ∀ (moments : Nat → Moment) (w : World),
        Memory.Reachable registry w.memory → (World.run registry moments (rootRow registry f id) w).1 =
          (World.run registry moments (resolveNode registry id (some typeName)) w).1,
      Owns registry typeName]) ∧
    (∀ (f : Field) (id : String), f.name = "node" → rootRow registry f id = resolveNode registry id none) ∧
    ∀ (vars : Variables) (f : Field), f.name ≠ "node" →
      (∀ model ∈ registry.models, ∀ typeName, model.graphName? = some typeName → lowerFirst typeName ≠ f.name) →
      ∃ value reason, rootValue registry vars f = throw (.invalidFormat value reason) := by
  refine ⟨fun model hmodel typeName hname => ?_, fun f id hf => rootRow_node registry hf id,
    fun vars f hnode hnone => rootValue_of_unknown vars hnode fun t ht => ?_⟩
  · tfae_have 1 → 2 := by
      intro h f id hf moments w _
      rw [h f id hf]
    tfae_have 2 → 3 := owns_of_results hreg.indexed (List.mem_filterMap.2 ⟨model, hmodel, hname⟩)
    tfae_have 3 → 1 := fun h f id hf => rootRow_of_owns h hf id
    tfae_finish
  · obtain ⟨model, hmodel, hname⟩ := List.mem_filterMap.1 ht
    exact hnone model hmodel t hname

/-- Widgets have a field of their own, and there is none of gadgets. -/
theorem typedField_exact_widgets :
    (∀ (f : Field) (id : String), f.name = lowerFirst "Widget" →
      rootRow .widgets f id = resolveNode .widgets id (some "Widget")) ∧
      ∃ value reason, rootValue .widgets [] ⟨none, "gadget", [], []⟩ = throw (.invalidFormat value reason) := by
  obtain ⟨htypes, -, hunknown⟩ := typedField_exact Registry.built_widgets
  have howns : Owns .widgets "Widget" := ⟨by decide +kernel, [], [], rfl, nofun⟩
  refine ⟨((htypes Registry.widget List.mem_cons_self "Widget" rfl).out 2 0).1 howns, ?_⟩
  refine hunknown [] ⟨none, "gadget", [], []⟩ (by decide +kernel) ?_
  rintro model hmodel typeName hname
  obtain rfl := List.mem_singleton.1 hmodel
  obtain rfl : "Widget" = typeName := Option.some.inj hname
  decide +kernel

end Graph

/-! ## Types without a field of their own -/

/-- A model of rows under numbers that is shown by a type. -/
def Registry.numbered (name typeName : String) : Model :=
  { widget with
    name
    entityType := "shop." ++ name
    plural := name ++ "s"
    eligibility := [.pk]
    graph := some (.node typeName) }

/-- Two types with one small name, and one by the name of the interface. -/
def Registry.overshadowed : Registry where
  models := [numbered "widget" "Widget", numbered "gadget" "widget", numbered "knot" "Node"]
  graphIndex := [("Widget", "shop.widget"), ("widget", "shop.gadget"), ("Node", "shop.knot")]
  pluralIndex := [("widgets", "shop.widget"), ("gadgets", "shop.gadget"), ("knots", "shop.knot")]

theorem Registry.built_overshadowed : Built overshadowed := by
  have hmodels : overshadowed.models.foldlM register empty = .ok overshadowed := by decide +kernel
  rcases Built.empty.foldlM_register overshadowed.models with ⟨r, hr, hbuilt, -⟩ | ⟨_, _, _, _, -, -, -, -, hr⟩
  · obtain rfl := Except.ok.inj (hmodels.symm.trans hr)
    exact hbuilt
  · cases hmodels.symm.trans hr

/-- A state of the overshadowed types that holds one row, under the key 1. -/
def World.overshadowed (ty : String) : World := ⟨.single ty, .of true, 0⟩

/-- **Types without a field of their own.** The field of the gadgets belongs to the widgets, and the one of the knots is
that of nodes: where there is a gadget or a knot with the key 1, the number 1 finds it under its type but not under its
field. -/
theorem Graph.typedField_overshadowed :
    Registry.overshadowed.Built ∧
    ((World.run .overshadowed (fun _ => .start) (rootRow .overshadowed ⟨none, lowerFirst "widget", [], []⟩ "1")
        (.overshadowed "shop.gadget")).1 = .ok none ∧
      (World.run .overshadowed (fun _ => .start) (resolveNode .overshadowed "1" (some "widget"))
        (.overshadowed "shop.gadget")).1 = .ok (some ⟨"shop.gadget", 1, .null, ⟨0, 0⟩⟩)) ∧
    (World.run .overshadowed (fun _ => .start) (rootRow .overshadowed ⟨none, lowerFirst "Node", [], []⟩ "1")
        (.overshadowed "shop.knot")).1 = .error (untypedNumber "1") ∧
      (World.run .overshadowed (fun _ => .start) (resolveNode .overshadowed "1" (some "Node"))
        (.overshadowed "shop.knot")).1 = .ok (some ⟨"shop.knot", 1, .null, ⟨0, 0⟩⟩) :=
  ⟨Registry.built_overshadowed, ⟨rfl, rfl⟩, rfl, rfl⟩

end RowIdentity
