import RowIdentity.Proofs.Resolution.Node
import RowIdentity.Proofs.Resolution.RowId

/-!
# From a row to its global id and back

* `World.run_globalId` — what writing a global id returns and leaves behind, scheme by scheme;
* `Memory.node_eq_row_iff` — a stored row is found exactly when the id names its key under its own type;
* `Memory.Names.publicId_iff`, `key_iff`, `encoded_iff` — when the id of each scheme names its row;
* `globalId_round_trip` — **the rows whose global ids lead back to them, exactly**.
-/

namespace RowIdentity

variable {registry : Registry} {moments : Nat → Moment} {m : Memory} {model : Model} {typeName : String} {r : Row}
  {flag : Bool} {expected : Option String} {w w' : World}

/-! ## Writing a global id -/

/-- The global id of a row whose model has a graph type. Only the Public-ID scheme touches the stored state. -/
theorem World.run_globalId (hmodel : registry.get? r.entityType = some model)
    (hname : model.graphName? = some typeName) (w : World) :
    run registry moments (globalId registry r) w =
      match model.scheme w.flag with
      | .legacy => (.ok (encodeGlobalId typeName (Decimal.text r.pk.toInt)), w.tick)
      | .pk => (.ok (Decimal.text r.pk.toInt), w.tick)
      | .publicId =>
        (((Memory.entryOrNew (moments (w.calls + 1)) w.memory r.entityType r.pk).1.mapError Fault.toError).map
            (·.publicId.toText),
          { w with
            memory := (Memory.entryOrNew (moments (w.calls + 1)) w.memory r.entityType r.pk).2
            calls := w.calls + 2 }) := by
  have hm : registry.model r.entityType = .ok model := (registry.model_eq_ok_iff _ _).2 hmodel
  unfold globalId
  rw [run_bind, hm, run_result]
  simp only [hname, run_bind, run_currentScheme]
  cases model.scheme w.flag with
  | legacy => rfl
  | pk => rfl
  | publicId =>
    rw [run_idOf]
    simp only [memory_tick, calls_tick]
    cases (Memory.entryOrNew (moments (w.calls + 1)) w.memory r.entityType r.pk).1 with
    | error f => rfl
    | ok e => rfl

/-- The text of a global id under each scheme; a public id is that of the row's entry in the state afterwards. -/
def Row.HasGlobalId (r : Row) (m : Memory) (scheme : IdScheme) (typeName g : String) : Prop :=
  match scheme with
  | .legacy => g = encodeGlobalId typeName (Decimal.text r.pk.toInt)
  | .pk => g = Decimal.text r.pk.toInt
  | .publicId => ∃ e, m.mappings.entryOf? r.entityType r.pk = some e ∧ g = e.publicId.toText

/-- Writing a global id moves no row and flips no flag. -/
theorem World.globalId_ok (hmodel : registry.get? r.entityType = some model)
    (hname : model.graphName? = some typeName) (hm : w.memory.Regular) {g : String}
    (h : run registry moments (globalId registry r) w = (.ok g, w')) :
    w'.flag = w.flag ∧ w'.memory.row? = w.memory.row? ∧ r.HasGlobalId w'.memory (model.scheme w.flag) typeName g := by
  rw [run_globalId hmodel hname] at h
  unfold Row.HasGlobalId
  cases hscheme : model.scheme w.flag with
  | legacy =>
    rw [hscheme] at h
    cases h
    exact ⟨rfl, rfl, rfl⟩
  | pk =>
    rw [hscheme] at h
    cases h
    exact ⟨rfl, rfl, rfl⟩
  | publicId =>
    rw [hscheme] at h
    rcases heq : Memory.entryOrNew (moments (w.calls + 1)) w.memory r.entityType r.pk with ⟨_ | e, m'⟩
    · rw [heq] at h
      cases h
    · rw [heq] at h
      cases h
      obtain ⟨mappings, rest, hget, rfl⟩ := Memory.entryOrNew_ok heq
      exact ⟨rfl, rfl, e, hm.coherent.entryOf?_getOrInsert hget, rfl⟩

/-- Writing fails only when a row without a public id draws none that is free. -/
theorem World.exists_globalId (hmodel : registry.get? r.entityType = some model)
    (hname : model.graphName? = some typeName) (hm : w.memory.Regular)
    (hdraws : model.scheme w.flag = .publicId → w.memory.mappings.idOf? r.entityType r.pk = none →
      ∃ u ∈ (moments (w.calls + 1)).draws, w.memory.mappings.entryById? u = none) :
    ∃ g w', run registry moments (globalId registry r) w = (.ok g, w') := by
  rw [run_globalId hmodel hname]
  cases hscheme : model.scheme w.flag with
  | legacy => exact ⟨_, _, rfl⟩
  | pk => exact ⟨_, _, rfl⟩
  | publicId =>
    obtain ⟨e, m', he⟩ := Memory.exists_entryOrNew hm (hdraws hscheme)
    rw [he]
    exact ⟨_, _, rfl⟩

/-! ## When an id names its row -/

theorem Model.IsNode.unique {a b : String} (ha : model.IsNode a) (hb : model.IsNode b) : a = b :=
  Option.some.inj (ha.graphName?.symm.trans hb.graphName?)

/-- A stored row is found exactly when the id names its key under the node type of its own model. -/
theorem Memory.node_eq_row_iff (hi : registry.Indexed) (hm : m.Regular)
    (hmodel : registry.get? model.entityType = some model) (hnode : model.IsNode typeName)
    (hrow : m.row? model.entityType r.pk = some r) (flag : Bool) (s : String) (expected : Option String) :
    m.node registry flag s expected = .ok (some r) ↔
      Expects expected typeName ∧ m.Names flag model typeName r.pk s expected := by
  rw [Memory.node_eq_some_iff hi hm]
  constructor
  · rintro ⟨model', typeName', hmodel', hnode', hexp, hrow', hnames⟩
    have hty : model'.entityType = model.entityType :=
      (hm.filed _ _ _ hrow').1.symm.trans (hm.filed _ _ _ hrow).1
    obtain rfl : model' = model := by
      rw [hty, hmodel] at hmodel'
      exact (Option.some.inj hmodel').symm
    obtain rfl := hnode'.unique hnode
    exact ⟨hexp, hnames⟩
  · rintro ⟨hexp, hnames⟩
    exact ⟨model, typeName, hmodel, hnode, hexp, hrow, hnames⟩

namespace Memory.Names

/-- The public id of a row names it when it is of version 4. -/
theorem publicId_iff (hm : m.Regular) (hscheme : model.scheme flag = .publicId) {e : MappingEntry}
    (he : m.mappings.entryOf? model.entityType r.pk = some e) :
    m.Names flag model typeName r.pk e.publicId.toText expected ↔ e.publicId.IsV4 := by
  obtain ⟨hid, hty, hpk⟩ := (hm.coherent.entryOf?_eq_some_iff _ _ e).1 he
  constructor
  · intro h
    cases h with
    | publicId _ hv4 hs _ _ _ _ => exact Uuid.toText_inj hs ▸ hv4
    | key hne hdigits _ _ _ =>
      have hn := (isNumeric_iff _).2 ⟨hne, hdigits⟩
      rw [not_isNumeric_of_hyphen (Uuid.hyphen_mem_toText _)] at hn
      cases hn
    | legacy hd _ =>
      rw [decodeGlobalId_of_hyphen (Uuid.hyphen_mem_toText _)] at hd
      cases hd
  · intro hv4
    obtain ⟨hflag, htracks⟩ := (model.scheme_eq_publicId_iff flag).1 hscheme
    have hp : model.isPublicIdEligible = true := by
      rw [Model.tracksPublicIds, Bool.and_eq_true] at htracks
      exact htracks.1
    exact .publicId hflag hv4 rfl hid hty hpk hp

/-- The key of a row names it under its type when it is not negative. -/
theorem key_iff (hscheme : model.scheme flag = .pk) :
    m.Names flag model typeName r.pk (Decimal.text r.pk.toInt) expected ↔ 0 ≤ r.pk ∧ expected = some typeName := by
  have hc : ¬ isCanonicalV4 (Decimal.text r.pk.toInt) = true := by simp [not_isCanonicalV4_text]
  have hp := Model.isPkEligible_of_scheme hscheme
  by_cases hpk : 0 ≤ r.pk
  · rw [numeric_iff hc ((isNumeric_text_iff _).2 hpk)]
    simp [parseKey_text_of_nonneg hpk, hpk, hp]
  · rw [legacy_iff hc (fun h => hpk ((isNumeric_text_iff _).1 h)), decodeGlobalId_of_hyphen (hyphen_mem_text hpk)]
    simp [hpk]

/-- The legacy id of a row names it when the key is not negative and the type name can be told from it. -/
theorem encoded_iff (flag : Bool) (model : Model) (expected : Option String) :
    m.Names flag model typeName r.pk (encodeGlobalId typeName (Decimal.text r.pk.toInt)) expected ↔
      0 ≤ r.pk ∧ typeName ≠ "" ∧ ':' ∉ typeName.toList := by
  rw [legacy_iff (by simp [not_isCanonicalV4_encodeGlobalId]) (by simp [not_isNumeric_encodeGlobalId])]
  simp only [decodeGlobalId_encodeGlobalId_iff]
  constructor
  · rintro ⟨id, ⟨heq, hne, hcolon, -⟩, hpk⟩
    have hid : Decimal.text r.pk.toInt = id := by
      have hl := congrArg String.toList heq
      rw [toList_typed, toList_typed] at hl
      exact String.toList_inj.1 (List.cons.inj (List.append_cancel_left hl)).2
    exact ⟨(isNumeric_text_iff _).1 (hid ▸ isNumeric_of_parseKey hpk), hne, hcolon⟩
  · rintro ⟨hpk, hne, hcolon⟩
    refine ⟨_, ⟨rfl, hne, hcolon, ?_⟩, parseKey_text_of_nonneg hpk⟩
    rw [Ne, ← isEmpty_toList, Decimal.toList_text, List.isEmpty_iff]
    exact Decimal.ofInt_ne_nil _

end Memory.Names

/-! ## There and back -/

/-- When the global id of a row leads back to it, by the scheme under which it was written. -/
def Row.Returns (r : Row) (m : Memory) (scheme : IdScheme) (typeName : String) : Prop :=
  match scheme with
  | .publicId => ∃ u, m.mappings.idOf? r.entityType r.pk = some u ∧ u.IsV4
  | .pk => 0 ≤ r.pk
  | .legacy => 0 ≤ r.pk ∧ typeName ≠ "" ∧ ':' ∉ typeName.toList

/-- The id a row was given names it under its own type when the row returns; without a type a bare key names
nothing. -/
theorem Row.HasGlobalId.names_iff {g : String} (hm : m.Regular) (hty : r.entityType = model.entityType)
    (hg : r.HasGlobalId m (model.scheme flag) typeName g) (expected : Option String) :
    m.Names flag model typeName r.pk g expected ↔
      r.Returns m (model.scheme flag) typeName ∧ (model.scheme flag = .pk → expected = some typeName) := by
  unfold Row.HasGlobalId at hg
  unfold Row.Returns
  cases hscheme : model.scheme flag with
  | legacy =>
    simp only [hscheme] at hg
    simp [hg, Memory.Names.encoded_iff]
  | pk =>
    simp only [hscheme] at hg
    simp [hg, Memory.Names.key_iff hscheme]
  | publicId =>
    simp only [hscheme] at hg
    obtain ⟨e, he, rfl⟩ := hg
    rw [Memory.Names.publicId_iff hm hscheme (hty ▸ he)]
    obtain ⟨hid, hety, hepk⟩ := (hm.coherent.entryOf?_eq_some_iff _ _ e).1 he
    have hidOf : m.mappings.idOf? r.entityType r.pk = some e.publicId :=
      (hm.coherent.idOf?_eq_some_iff _ _ _).2 ⟨e, hid, hety, hepk⟩
    simp [hidOf]

/-- A key without a type is malformed, whatever its sign. -/
theorem Memory.node_text_none (m : Memory) (registry : Registry) (flag : Bool) (pk : Int64) :
    ∃ reason, m.node registry flag (Decimal.text pk.toInt) none =
      .error (.invalidFormat (Decimal.text pk.toInt) reason) := by
  unfold Memory.node
  rw [if_neg (by simp [not_isCanonicalV4_text])]
  by_cases hpk : 0 ≤ pk
  · rw [if_pos ((isNumeric_text_iff pk).2 hpk)]
    exact ⟨_, rfl⟩
  · rw [if_neg fun h => hpk ((isNumeric_text_iff pk).1 h)]
    refine ⟨"not a base64 global id", ?_⟩
    simp only [Memory.legacyNode, decodeGlobalId_of_hyphen (hyphen_mem_text hpk)]
    rfl

/-- **The round trip of global ids.** From every reachable state and under every value of the flag, writing the global
id of a stored row with a node type succeeds, as long as a row without a public id draws a free one. In the state
afterwards the id leads back to the row exactly when the row returns under the scheme of its model; without an
expected type likewise, but under the Pk scheme the bare key is malformed. The legacy id of a row whose key is not
negative and whose type name holds no colon leads back to it under either value of the flag. -/
theorem globalId_round_trip (hreg : registry.Built) (moments : Nat → Moment) (w : World)
    (hw : Memory.Reachable registry w.memory) (model : Model) (typeName : String) (r : Row)
    (hmodel : registry.get? model.entityType = some model) (hnode : model.IsNode typeName)
    (hrow : w.memory.row? model.entityType r.pk = some r) :
    ((model.scheme w.flag = .publicId → w.memory.mappings.idOf? r.entityType r.pk = none →
        ∃ u ∈ (moments (w.calls + 1)).draws, w.memory.mappings.entryById? u = none) →
      ∃ g w', World.run registry moments (globalId registry r) w = (.ok g, w')) ∧
    (∀ g w', World.run registry moments (globalId registry r) w = (.ok g, w') →
      ((World.run registry moments (resolveNode registry g (some typeName)) w').1 = .ok (some r) ↔
        r.Returns w'.memory (model.scheme w.flag) typeName) ∧
      (model.scheme w.flag ≠ .pk →
        ((World.run registry moments (resolveNode registry g none) w').1 = .ok (some r) ↔
          r.Returns w'.memory (model.scheme w.flag) typeName)) ∧
      (model.scheme w.flag = .pk →
        ∃ reason, (World.run registry moments (resolveNode registry g none) w').1 =
          .error (.invalidFormat g reason))) ∧
    (0 ≤ r.pk → typeName ≠ "" → ':' ∉ typeName.toList →
      ∀ (flags : RuntimeFlags) (expected : Option String), Expects expected typeName →
        (World.run registry moments
          (resolveNode registry (encodeGlobalId typeName (Decimal.text r.pk.toInt)) expected)
          { w with flags }).1 = .ok (some r)) := by
  have hm := hw.regular
  have hi := hreg.indexed
  obtain ⟨hty, -⟩ := hm.filed _ _ _ hrow
  have hmodel' : registry.get? r.entityType = some model := hty.symm ▸ hmodel
  refine ⟨World.exists_globalId hmodel' hnode.graphName? hm, ?_, ?_⟩
  · intro g w' h
    obtain ⟨hflag, hrows, hg⟩ := World.globalId_ok hmodel' hnode.graphName? hm h
    have hm' : w'.memory.Regular := by
      have := (hw.run moments (globalId registry r)).regular
      rwa [h] at this
    have hrow' : w'.memory.row? model.entityType r.pk = some r := hrows ▸ hrow
    have hback : ∀ expected, (World.run registry moments (resolveNode registry g expected) w').1 = .ok (some r) ↔
        Expects expected typeName ∧ r.Returns w'.memory (model.scheme w.flag) typeName ∧
          (model.scheme w.flag = .pk → expected = some typeName) := by
      intro expected
      rw [(reads_resolveNode registry g expected).run_fst, hflag,
        Memory.node_eq_row_iff hi hm' hmodel hnode hrow', hg.names_iff hm' hty]
    refine ⟨?_, ?_, ?_⟩
    · simp [hback, Expects]
    · intro hpk
      simp [hback, Expects, hpk]
    · intro hpk
      simp only [Row.HasGlobalId, hpk] at hg
      rw [(reads_resolveNode registry g none).run_fst, hg]
      exact Memory.node_text_none _ _ _ _
  · intro hpk hne hcolon flags expected hexp
    rw [(reads_resolveNode registry _ expected).run_fst, Memory.node_eq_row_iff hi hm hmodel hnode hrow]
    exact ⟨hexp, (Memory.Names.encoded_iff _ _ _).2 ⟨hpk, hne, hcolon⟩⟩

/-- The first widget comes back under its public id while the flag is on. -/
theorem globalId_round_trip_widget :
    World.run .widgets (fun _ => .start) (globalId .widgets .widget) (.widget true) =
        (.ok "00000000-0000-4000-8000-000000000000", { World.widget true with calls := 2 }) ∧
      (World.run .widgets (fun _ => .start)
        (resolveNode .widgets "00000000-0000-4000-8000-000000000000" (some "Widget"))
        { World.widget true with calls := 2 }).1 = .ok (some .widget) := by
  have hrun : World.run .widgets (fun _ => .start) (globalId .widgets .widget) (.widget true) =
      (.ok "00000000-0000-4000-8000-000000000000", { World.widget true with calls := 2 }) := rfl
  have hback := (globalId_round_trip Registry.built_widgets (fun _ => .start) (.widget true)
    (Memory.reachable_widget true) Registry.widget "Widget" .widget rfl ⟨_, rfl, rfl, rfl⟩ rfl).2.1 _ _ hrun
  exact ⟨hrun, hback.1.2 ⟨.zeroV4, rfl, by decide⟩⟩

end RowIdentity
