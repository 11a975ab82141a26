import RowIdentity.Proofs.Memory
import RowIdentity.Proofs.Registry

/-!
# The id of a row

* `Memory.exists_entryOrNew`, `World.exists_externalId` — asking for the id of a row fails for want of an unused draw
  alone;
* `Row.HasId`, `World.externalId_ok` — the id a row is given, scheme by scheme;
* `Row.hasId_publicId_iff` — a public id is that of the row in the table;
* `Row.HasId.run_externalId` — a row that has an id is shown under it, and nothing changes.
-/

namespace RowIdentity

variable {registry : Registry} {moments : Nat → Moment} {m : Memory} {model : Model} {r : Row} {scheme : IdScheme}
  {id : ExternalId} {w w' : World}

/-! ## Asking for an id -/

/-- With an unused draw at hand, asking for the entry of a row succeeds. -/
theorem Memory.exists_entryOrNew (hm : m.Regular) {t : Moment} {ty : String} {pk : Int64}
    (hdraw : m.mappings.idOf? ty pk = none → ∃ u ∈ t.draws, m.mappings.entryById? u = none) :
    ∃ e m', m.entryOrNew t ty pk = (.ok e, m') := by
  have hsome : (m.mappings.getOrInsert ty pk t.now t.draws).isSome = true := by
    cases hid : m.mappings.idOf? ty pk with
    | none => exact hm.coherent.getOrInsert_isSome ty pk t.now (hdraw hid)
    | some u =>
      obtain ⟨e, he, -⟩ := hm.coherent.exists_entryOf? hid
      rw [Moment.draws, MappingTable.getOrInsert_of_mapped he]
      rfl
  obtain ⟨⟨e, mappings, rest⟩, hget⟩ := Option.isSome_iff_exists.1 hsome
  exact ⟨e, { m with mappings }, by simp [Memory.entryOrNew, hget]⟩

theorem World.run_externalId (hmodel : registry.get? r.entityType = some model) (w : World) :
    run registry moments (externalId registry r) w = run registry moments ((model.scheme w.flag).idOf r) w.tick := by
  unfold externalId
  rw [run_bind, run_result, (registry.model_eq_ok_iff _ _).2 hmodel]
  simp only [run_bind, run_currentScheme]

/-! ## The id that a row has -/

/-- The id of a row under a scheme; a public id is that of the row's entry. -/
def Row.HasId (r : Row) (m : Memory) (scheme : IdScheme) (id : ExternalId) : Prop :=
  match scheme with
  | .legacy => id = .legacy r.pk
  | .pk => id = .pk r.pk
  | .publicId => ∃ e, m.mappings.entryOf? r.entityType r.pk = some e ∧ id = .publicId e.publicId

/-- Outside of the Public-ID scheme the id is the key. -/
theorem Row.HasId.of_ne (h : r.HasId m scheme id) (hscheme : scheme ≠ .publicId) :
    id.text = Decimal.text r.pk.toInt ∧ ∀ u, id ≠ .publicId u := by
  cases scheme with
  | publicId => exact absurd rfl hscheme
  | legacy =>
    obtain rfl : id = .legacy r.pk := h
    exact ⟨rfl, nofun⟩
  | pk =>
    obtain rfl : id = .pk r.pk := h
    exact ⟨rfl, nofun⟩

theorem Row.HasId.key?_of_ne (h : r.HasId m scheme id) (hscheme : scheme ≠ .publicId) : id.key? = some r.pk := by
  cases scheme with
  | publicId => exact absurd rfl hscheme
  | legacy => exact congrArg ExternalId.key? (show id = .legacy r.pk from h)
  | pk => exact congrArg ExternalId.key? (show id = .pk r.pk from h)

theorem Row.hasId_publicId_iff (hm : m.Regular) (r : Row) (u : Uuid) :
    r.HasId m .publicId (.publicId u) ↔ m.mappings.idOf? r.entityType r.pk = some u := by
  constructor
  · rintro ⟨e, he, hid⟩
    obtain rfl := ExternalId.publicId.inj hid
    exact (hm.coherent.idOf?_eq_some_iff _ _ _).2 ⟨e, (hm.coherent.entryOf?_eq_some_iff _ _ e).1 he⟩
  · intro hu
    obtain ⟨e, he, rfl⟩ := hm.coherent.exists_entryOf? hu
    exact ⟨e, he, rfl⟩

/-- Asking for an id moves no row and flips no flag, and the row has the id afterwards. -/
theorem World.externalId_ok (hmodel : registry.get? r.entityType = some model) (hm : w.memory.Regular)
    (h : run registry moments (externalId registry r) w = (.ok id, w')) :
    w'.flag = w.flag ∧ w'.memory.row? = w.memory.row? ∧ r.HasId w'.memory (model.scheme w.flag) id := by
  rw [run_externalId hmodel, run_idOf] at h
  unfold Row.HasId
  cases hscheme : model.scheme w.flag with
  | legacy =>
    rw [hscheme] at h
    cases h
    exact ⟨rfl, rfl, rfl⟩
  | pk =>
    rw [hscheme] at h
    cases h
    exact ⟨rfl, rfl, rfl⟩
  | publicId =>
    rw [hscheme] at h
    rcases heq : Memory.entryOrNew (moments w.tick.calls) w.tick.memory r.entityType r.pk with ⟨_ | e, m'⟩
    · rw [heq] at h
      cases h
    · rw [heq] at h
      cases h
      obtain ⟨mappings, rest, hget, rfl⟩ := Memory.entryOrNew_ok heq
      exact ⟨rfl, rfl, e, hm.coherent.entryOf?_getOrInsert hget, rfl⟩

/-- It fails only when a row without a public id draws none that is free. -/
theorem World.exists_externalId (hmodel : registry.get? r.entityType = some model) (hm : w.memory.Regular)
    (hdraws : model.scheme w.flag = .publicId → w.memory.mappings.idOf? r.entityType r.pk = none →
      ∃ u ∈ (moments (w.calls + 1)).draws, w.memory.mappings.entryById? u = none) :
    ∃ id w', run registry moments (externalId registry r) w = (.ok id, w') := by
  rw [run_externalId hmodel, run_idOf]
  cases hscheme : model.scheme w.flag with
  | legacy => exact ⟨_, _, rfl⟩
  | pk => exact ⟨_, _, rfl⟩
  | publicId =>
    obtain ⟨e, m', he⟩ := Memory.exists_entryOrNew hm (hdraws hscheme)
    simp only [memory_tick, calls_tick, he]
    exact ⟨_, _, rfl⟩

/-- A row that has an id is shown under it, and nothing changes. -/
theorem Row.HasId.run_externalId (moments : Nat → Moment) (hmodel : registry.get? r.entityType = some model)
    (h : r.HasId w.memory (model.scheme w.flag) id) :
    ∃ n, World.run registry moments (externalId registry r) w = (.ok id, { w with calls := n }) := by
  rw [World.run_externalId hmodel, World.run_idOf]
  cases hscheme : model.scheme w.flag with
  | legacy =>
    rw [hscheme] at h
    exact ⟨w.calls + 1, by rw [show id = .legacy r.pk from h]; rfl⟩
  | pk =>
    rw [hscheme] at h
    exact ⟨w.calls + 1, by rw [show id = .pk r.pk from h]; rfl⟩
  | publicId =>
    rw [hscheme] at h
    obtain ⟨e, he, rfl⟩ := h
    have hentry : Memory.entryOrNew (moments (w.calls + 1)) w.memory r.entityType r.pk = (.ok e, w.memory) := by
      simp only [Memory.entryOrNew, Moment.draws, MappingTable.getOrInsert_of_mapped he]
    refine ⟨w.calls + 1 + 1, ?_⟩
    simp only [World.memory_tick, World.calls_tick, hentry]
    rfl

end RowIdentity
