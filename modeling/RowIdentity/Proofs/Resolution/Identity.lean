import RowIdentity.Proofs.Resolution.RoundTrip
import RowIdentity.Proofs.Resolution.RowId

/-!
# From a row to its id and back

* `Memory.rowOf`, `reads_resolveId` — what an id reads under the scheme of a model;
* `externalId_round_trip` — **an id leads back to its row, negative keys apart, and to no row of another model**.
-/

namespace RowIdentity

variable {registry : Registry} {moments : Nat → Moment} {m : Memory} {model : Model} {r : Row} {scheme : IdScheme}
  {id : ExternalId} {w w' : World}

/-! ## Reading an id -/

/-- What an id reads under a scheme of a model: a key must have a stored row; a public id without an entry, or with an
entry of another model, has no row. -/
def Memory.rowOf (m : Memory) (scheme : IdScheme) (model : Model) (s : String) : IdResult (Option Row) :=
  match scheme with
  | .legacy | .pk => do
    let pk ← parseKey s
    match ← pure (m.row? model.entityType pk) with
    | some row => return some row
    | none => throw (.notFound model.entityType (Decimal.text pk.toInt))
  | .publicId => do
    let publicId ← parsePublicId s
    let some entry ← pure (m.mappings.entryById? publicId) | return none
    if entry.entityType ≠ model.entityType then return none
    return m.row? entry.entityType entry.rowKey

theorem reads_rowOf (scheme : IdScheme) (s : String) (model : Model) :
    Action.Reads (scheme.rowOf s (some model)) fun m _ => m.rowOf scheme model s := by
  have hkey : Action.Reads (IdScheme.pk.rowOf s (some model)) fun m _ => m.rowOf .pk model s := by
    refine Action.Reads.bind (.result _) fun pk => ?_
    refine Action.Reads.bind (.row _ _) fun row? => ?_
    cases row? with
    | none => exact Action.Reads.throw _
    | some row => exact Action.Reads.pure _
  cases scheme with
  | legacy => exact hkey
  | pk => exact hkey
  | publicId =>
    refine Action.Reads.bind (.result _) fun publicId => ?_
    refine Action.Reads.bind (.entryById _) fun entry? => ?_
    cases entry? with
    | none => exact Action.Reads.pure _
    | some entry =>
      simp only [Option.any_some, decide_eq_true_eq]
      exact Action.Reads.ite (.pure _) (.row _ _)

/-- **An id is read under the scheme of the model it is said to be of.** -/
theorem reads_resolveId (s : String) (model : Model) :
    Action.Reads (resolveId s model) fun m flag => m.rowOf (model.scheme flag) model s := by
  have hscheme : Action.Reads (currentScheme model) fun _ flag => .ok (model.scheme flag) :=
    fun _ _ w => ⟨w.calls + 1, rfl⟩
  exact Action.Reads.bind hscheme fun scheme => reads_rowOf scheme s model

/-! ## When an id leads back -/

namespace Memory

/-- A key that is not negative is read as it was written. -/
theorem rowOf_text (hscheme : scheme ≠ .publicId) (hpk : 0 ≤ r.pk) (hrow : m.row? model.entityType r.pk = some r) :
    m.rowOf scheme model (Decimal.text r.pk.toInt) = .ok (some r) := by
  have hread : m.rowOf .pk model (Decimal.text r.pk.toInt) = .ok (some r) := by
    simp [rowOf, parseKey_text_of_nonneg hpk, hrow, bind, Except.bind, pure, Except.pure]
  cases scheme with
  | publicId => exact absurd rfl hscheme
  | legacy => exact hread
  | pk => exact hread

/-- A negative key is written, but not read. -/
theorem rowOf_text_of_neg (hscheme : scheme ≠ .publicId) (m : Memory) (model : Model) {pk : Int64} (hpk : ¬ 0 ≤ pk) :
    m.rowOf scheme model (Decimal.text pk.toInt) =
      .error (.invalidFormat (Decimal.text pk.toInt) "not a numeric primary key") := by
  have hn : isNumeric (Decimal.text pk.toInt) = false := by
    rw [← Bool.not_eq_true, isNumeric_text_iff]
    exact hpk
  have hkey : parseKey (Decimal.text pk.toInt) =
      .error (.invalidFormat (Decimal.text pk.toInt) "not a numeric primary key") := by
    simp [parseKey, hn]
  cases scheme with
  | publicId => exact absurd rfl hscheme
  | legacy =>
    rw [rowOf, hkey]
    rfl
  | pk =>
    rw [rowOf, hkey]
    rfl

/-- A public id is that of one row; read as an id of another model it has none. -/
theorem rowOf_publicId (hm : m.Regular) {e : MappingEntry} (he : m.mappings.entryOf? r.entityType r.pk = some e)
    (model : Model) :
    m.rowOf .publicId model e.publicId.toText =
      .ok (if r.entityType = model.entityType then m.row? r.entityType r.pk else none) := by
  obtain ⟨hid, hty, hpk⟩ := (hm.coherent.entryOf?_eq_some_iff _ _ e).1 he
  simp only [rowOf, parsePublicId_toText, bind, Except.bind, pure, Except.pure, hid, ← hty, ← hpk]
  by_cases hmodel : e.entityType = model.entityType
  · simp [hmodel]
  · simp [hmodel]

end Memory

/-- **The round trip of ids.** From every reachable state and under every value of the flag, asking for the id of a
stored row succeeds, as long as a row without a public id draws a free one. In the state afterwards the id leads back
to the row if it is a public id or the key is not negative, and is malformed otherwise; and to any other model whose
public ids are shown, a public id of the row is unknown. -/
theorem externalId_round_trip (moments : Nat → Moment) (w : World)
    (hw : Memory.Reachable registry w.memory) (model : Model) (r : Row)
    (hmodel : registry.get? model.entityType = some model) (hrow : w.memory.row? model.entityType r.pk = some r) :
    ((model.scheme w.flag = .publicId → w.memory.mappings.idOf? r.entityType r.pk = none →
        ∃ u ∈ (moments (w.calls + 1)).draws, w.memory.mappings.entryById? u = none) →
      ∃ id w', World.run registry moments (externalId registry r) w = (.ok id, w')) ∧
    (∀ id w', World.run registry moments (externalId registry r) w = (.ok id, w') →
      (model.scheme w.flag = .publicId ∨ 0 ≤ r.pk →
        (World.run registry moments (resolveId id.text model) w').1 = .ok (some r)) ∧
      (¬ (model.scheme w.flag = .publicId ∨ 0 ≤ r.pk) →
        (World.run registry moments (resolveId id.text model) w').1 =
          .error (.invalidFormat id.text "not a numeric primary key")) ∧
      (∀ other u, registry.get? other.entityType = some other → other ≠ model →
        other.scheme w.flag = .publicId → id = .publicId u →
          (World.run registry moments (resolveId id.text other) w').1 = .ok none)) := by
  have hm := hw.regular
  obtain ⟨hty, -⟩ := hm.filed _ _ _ hrow
  have hmodel' : registry.get? r.entityType = some model := hty.symm ▸ hmodel
  refine ⟨World.exists_externalId hmodel' hm, fun id w' h => ?_⟩
  obtain ⟨hflag, hrows, hid⟩ := World.externalId_ok hmodel' hm h
  have hm' : w'.memory.Regular := by
    have := (hw.run moments (externalId registry r)).regular
    rwa [h] at this
  have hrow' : w'.memory.row? model.entityType r.pk = some r := hrows ▸ hrow
  simp only [(reads_resolveId _ _).run_fst, hflag]
  by_cases hscheme : model.scheme w.flag = .publicId
  · rw [hscheme] at hid ⊢
    obtain ⟨e, he, rfl⟩ := hid
    have hread := Memory.rowOf_publicId hm' he
    refine ⟨fun _ => ?_, fun h => absurd (.inl rfl) h, fun other _ hother hne hshown _ => ?_⟩
    · rw [ExternalId.text, hread, if_pos hty, hty, hrow']
    · rw [ExternalId.text, hshown, hread, if_neg]
      -- entity types are unique in a registry
      intro heq
      rw [← heq, hmodel'] at hother
      exact hne (Option.some.inj hother).symm
  · obtain ⟨htext, hkey⟩ := hid.of_ne hscheme
    refine ⟨fun h => ?_, fun h => ?_, fun _ u _ _ _ hu => absurd hu (hkey u)⟩
    · rw [htext, Memory.rowOf_text hscheme (h.resolve_left hscheme) hrow']
    · rw [htext, Memory.rowOf_text_of_neg hscheme _ _ fun hpk => h (.inr hpk)]

/-! ## Widgets and gadgets -/

/-- Gadgets have counted keys and public ids, but no graph type. -/
def Registry.gadget : Model where
  appLabel := "shop"
  name := "gadget"
  entityType := "shop.gadget"
  plural := "gadgets"
  table := "shop_gadget"
  keyKind := .autoIncrement
  eligibility := [.publicId]
  graph := none

/-- A registry of widgets and gadgets. -/
def Registry.shop : Registry :=
  ⟨[widget, gadget], [("Widget", "shop.widget")], [("widgets", "shop.widget"), ("gadgets", "shop.gadget")]⟩

/-- A shop in which the first widget was created. -/
def World.shop : World :=
  ⟨(Memory.answer .shop true .start (.create "shop.widget" .null) .empty).2, .of true, 0⟩

/-- The public id of the first widget leads back to it, and to no gadget. -/
theorem externalId_round_trip_widget :
    ∃ w', World.run .shop (fun _ => .start) (externalId .shop .widget) .shop = (.ok (.publicId .zeroV4), w') ∧
      (World.run .shop (fun _ => .start) (resolveId Uuid.zeroV4.toText Registry.widget) w').1 = .ok (some .widget) ∧
      (World.run .shop (fun _ => .start) (resolveId Uuid.zeroV4.toText Registry.gadget) w').1 = .ok none := by
  obtain ⟨-, hback⟩ := externalId_round_trip (fun _ => .start) .shop (.answer true .start _ .empty) Registry.widget
    .widget rfl rfl
  obtain ⟨hown, -, hother⟩ := hback (.publicId .zeroV4) _ rfl
  exact ⟨_, rfl, hown (.inl rfl), hother Registry.gadget .zeroV4 rfl (by decide) rfl rfl⟩

end RowIdentity
