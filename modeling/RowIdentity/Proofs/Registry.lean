import RowIdentity.Proofs.Assoc
import RowIdentity.Registry
import RowIdentity.Scheme

/-!
# Registries that were built by registration

* `Registry.Built` — a registry that registration alone has made;
* `Registry.Indexed` — entity types, graph type names and plurals are unique, and both indexes list the models;
* `Registry.taken?`, `Registry.offer_eq` — the first of a model's names that is taken, and **a call refuses it and
  changes nothing, or enters the model**;
* `Registry.Built.indexed` — **every built registry is indexed**;
* `Indexed.get?_eq_some_iff`, `byGraphName?_eq_some_iff`, `byPlural?_eq_some_iff` — what the look-ups of an indexed
  registry find.
-/

namespace RowIdentity

/-! ## The scheme of a model -/

/-- Public ids are shown exactly where they are tracked, while the flag is on. -/
theorem Model.scheme_eq_publicId_iff (model : Model) (flag : Bool) :
    model.scheme flag = .publicId ↔ flag = true ∧ model.tracksPublicIds = true := by
  unfold scheme tracksPublicIds
  grind

theorem Model.isPkEligible_of_scheme {model : Model} {flag : Bool} (h : model.scheme flag = .pk) :
    model.isPkEligible = true := by
  unfold scheme at h
  grind

namespace Registry

variable {r r' : Registry} {m : Model}

/-- A registry that was made by registering models, one after another. -/
inductive Built : Registry → Prop where
  | empty : Built empty
  | register {r r' : Registry} {m : Model} : Built r → r.register m = .ok r' → Built r'

/-- Names are unique, and the indexes list what the models say. -/
structure Indexed (r : Registry) : Prop where
  types : (r.models.map (·.entityType)).Nodup
  graphIndex : r.graphIndex = r.models.filterMap fun m => m.graphName?.map fun n => (n, m.entityType)
  graphNames : (r.graphIndex.map (·.1)).Nodup
  pluralIndex : r.pluralIndex = r.models.map fun m => (m.plural, m.entityType)
  plurals : (r.pluralIndex.map (·.1)).Nodup

/-! ## Look-ups in a list -/

theorem indexed?_eq_some_iff {index : List (String × String)} (h : (index.map (·.1)).Nodup) (name ty : String) :
    indexed? index name = some ty ↔ (name, ty) ∈ index := by
  simp only [indexed?, Option.map_eq_some_iff, Assoc.find?_key_eq_some_iff Prod.fst h]
  constructor
  · rintro ⟨⟨n, t⟩, ⟨hmem, rfl⟩, rfl⟩
    exact hmem
  · intro hmem
    exact ⟨(name, ty), ⟨hmem, rfl⟩, rfl⟩

theorem indexed?_eq_none_iff (index : List (String × String)) (name : String) :
    (indexed? index name).isSome = false ↔ name ∉ index.map (·.1) := by
  simp [indexed?]
  grind

theorem get?_isSome_eq_false_iff (r : Registry) (ty : String) :
    (r.get? ty).isSome = false ↔ ty ∉ r.models.map (·.entityType) := by
  simp [get?]

/-! ## Registration -/

/-- The first of a model's names that is taken: entity type, graph type, plural. -/
def taken? (r : Registry) (m : Model) : Option String :=
  if (r.get? m.entityType).isSome then some m.entityType
  else match m.graphName?.filter fun n => (indexed? r.graphIndex n).isSome with
    | some n => some n
    | none => if (indexed? r.pluralIndex m.plural).isSome then some m.plural else none

/-- The registry with one model more. -/
def add (r : Registry) (m : Model) : Registry where
  models := r.models ++ [m]
  graphIndex := r.graphIndex ++ (m.graphName?.map fun n => (n, m.entityType)).toList
  pluralIndex := r.pluralIndex ++ [(m.plural, m.entityType)]

@[simp] theorem models_add (r : Registry) (m : Model) : (r.add m).models = r.models ++ [m] := rfl

/-- What was done before a failure stays. -/
theorem run_bind {α β : Type} (a : ExceptT IdError (StateM Registry) α) (next : α → ExceptT IdError (StateM Registry) β)
    (r : Registry) :
    (a >>= next).run.run r = match a.run.run r with
      | (.ok x, r') => (next x).run.run r'
      | (.error e, r') => (.error e, r') := by
  rw [ExceptT.run_bind, StateT.run_bind]
  rcases a.run.run r with ⟨_ | x, r'⟩ <;> rfl

theorem run_refuseTaken (name : String) (taken : Bool) (r : Registry) :
    (refuseTaken name taken).run.run r = (if taken then .error (.duplicateModel name) else .ok (), r) := by
  cases taken <;> rfl

/-- **The look-ups change nothing**, and find the first name that is taken. -/
theorem run_checkNames (r : Registry) (m : Model) :
    (checkNames m).run.run r = match r.taken? m with
      | some name => (.error (.duplicateModel name), r)
      | none => (.ok (), r) := by
  have hget (next : Registry → ExceptT IdError (StateM Registry) Unit) :
      (get >>= next).run.run r = (next r).run.run r := rfl
  rw [checkNames, hget, run_bind, run_refuseTaken, taken?]
  cases (r.get? m.entityType).isSome with
  | true => rfl
  | false =>
    cases m.graphName? with
    | none =>
      simp only [Option.filter, run_refuseTaken, Bool.false_eq_true, if_false]
      split <;> rfl
    | some n =>
      simp only [Option.filter, run_bind, run_refuseTaken, Bool.false_eq_true, if_false]
      by_cases hgraph : (indexed? r.graphIndex n).isSome = true
      · rw [if_pos hgraph, if_pos hgraph]
      · rw [if_neg hgraph, if_neg hgraph]
        by_cases hplural : (indexed? r.pluralIndex m.plural).isSome = true
        · simp only [if_pos hplural]
        · simp only [if_neg hplural]

theorem run_file (r : Registry) (m : Model) : (file m).run.run r = (.ok (), r.add m) := by
  unfold file add
  cases m.graphName? with
  | none =>
    rw [Option.map_none, Option.toList_none, List.append_nil]
    rfl
  | some n => rfl

/-- **What a call does**: it refuses a model by its first name that is taken and leaves the registry as it is, or it
takes the model in. -/
theorem offer_eq (r : Registry) (m : Model) :
    r.offer m = match r.taken? m with
      | some name => (.error (.duplicateModel name), r)
      | none => (.ok m, r.add m) := by
  rw [offer, enter, run_bind, run_checkNames]
  cases r.taken? m with
  | some name => rfl
  | none =>
    change (file m >>= fun _ => pure m).run.run r = (.ok m, r.add m)
    rw [run_bind, run_file]
    rfl

theorem register_eq (r : Registry) (m : Model) :
    r.register m = match r.taken? m with
      | some name => .error (.duplicateModel name)
      | none => .ok (r.add m) := by
  rw [register, offer_eq]
  cases r.taken? m <;> rfl

theorem taken?_eq_none_iff (r : Registry) (m : Model) :
    r.taken? m = none ↔
      m.entityType ∉ r.models.map (·.entityType) ∧
        (∀ n, m.graphName? = some n → n ∉ r.graphIndex.map (·.1)) ∧
        m.plural ∉ r.pluralIndex.map (·.1) := by
  rw [← get?_isSome_eq_false_iff, ← indexed?_eq_none_iff r.pluralIndex]
  simp only [← indexed?_eq_none_iff r.graphIndex]
  unfold taken?
  by_cases ht : (r.get? m.entityType).isSome = true
  · simp [ht]
  · cases hg : m.graphName? with
    | none => simp [ht]
    | some n =>
      by_cases hn : (indexed? r.graphIndex n).isSome = true
      · simp [ht, Option.filter, hn, -Option.isSome_eq_false_iff]
      · simp [ht, Option.filter, hn, -Option.isSome_eq_false_iff]

/-- One model more keeps names unique and the indexes in step with the models. -/
theorem Indexed.add (hr : Indexed r) (htaken : r.taken? m = none) : Indexed (r.add m) := by
  obtain ⟨htype, hgraph, hplural⟩ := (taken?_eq_none_iff r m).1 htaken
  unfold Registry.add
  refine ⟨?_, ?_, ?_, ?_, ?_⟩
  · simp [List.nodup_append, hr.types] at htype ⊢
    grind
  · cases hg : m.graphName? with
    | none => simp [hg, hr.graphIndex]
    | some n => simp [hg, hr.graphIndex]
  · cases hg : m.graphName? with
    | none => simpa using hr.graphNames
    | some n =>
      have := hgraph n hg
      simp [List.nodup_append, hr.graphNames] at this ⊢
      grind
  · simp [hr.pluralIndex]
  · simp [List.nodup_append, hr.plurals] at hplural ⊢
    grind

theorem Indexed.register (hr : Indexed r) (h : r.register m = .ok r') : Indexed r' := by
  rw [register_eq] at h
  cases htaken : r.taken? m with
  | some name =>
    rw [htaken] at h
    cases h
  | none =>
    rw [htaken] at h
    exact Except.ok.inj h ▸ hr.add htaken

/-- **Every registry that registration makes is indexed.** -/
theorem Built.indexed (h : Built r) : Indexed r := by
  induction h with
  | empty => exact ⟨List.nodup_nil, rfl, List.nodup_nil, rfl, List.nodup_nil⟩
  | register _ hreg ih => exact ih.register hreg

/-! ## What the look-ups find -/

theorem get?_entityType {ty : String} {m : Model} (h : r.get? ty = some m) : m.entityType = ty := by
  simpa using List.find?_some h

theorem model_eq_ok_iff (r : Registry) (ty : String) (m : Model) : r.model ty = .ok m ↔ r.get? ty = some m := by
  unfold Registry.model
  cases r.get? ty <;> simp

theorem graphModel_eq_ok_iff (r : Registry) (name : String) (m : Model) :
    r.graphModel name = .ok m ↔ r.byGraphName? name = some m := by
  unfold graphModel
  cases r.byGraphName? name <;> simp

theorem Indexed.get?_eq_some_iff (h : Indexed r) (ty : String) (m : Model) :
    r.get? ty = some m ↔ m ∈ r.models ∧ m.entityType = ty :=
  Assoc.find?_key_eq_some_iff Model.entityType h.types ty m

theorem Indexed.byGraphName?_eq_some_iff (h : Indexed r) (name : String) (m : Model) :
    r.byGraphName? name = some m ↔ m ∈ r.models ∧ m.graphName? = some name := by
  simp only [byGraphName?, Option.bind_eq_some_iff, indexed?_eq_some_iff h.graphNames, h.get?_eq_some_iff]
  simp only [h.graphIndex, List.mem_filterMap, Option.map_eq_some_iff, Prod.mk.injEq]
  constructor
  · rintro ⟨ty, ⟨m', hm', n, hn, rfl, rfl⟩, hm, hty⟩
    obtain rfl := List.inj_on_of_nodup_map h.types hm hm' hty
    exact ⟨hm, hn⟩
  · rintro ⟨hm, hn⟩
    exact ⟨m.entityType, ⟨m, hm, name, hn, rfl, rfl⟩, hm, rfl⟩

theorem Indexed.byPlural?_eq_some_iff (h : Indexed r) (plural : String) (m : Model) :
    r.byPlural? plural = some m ↔ m ∈ r.models ∧ m.plural = plural := by
  simp only [byPlural?, Option.bind_eq_some_iff, indexed?_eq_some_iff h.plurals, h.get?_eq_some_iff]
  simp only [h.pluralIndex, List.mem_map, Prod.mk.injEq]
  constructor
  · rintro ⟨ty, ⟨m', hm', rfl, rfl⟩, hm, hty⟩
    obtain rfl := List.inj_on_of_nodup_map h.types hm hm' hty
    exact ⟨hm, rfl⟩
  · rintro ⟨hm, hplural⟩
    exact ⟨m.entityType, ⟨m, hm, hplural, rfl⟩, hm, rfl⟩

/-! ## A registry of one model -/

/-- Widgets have counted keys, public ids and a node type. -/
def widget : Model where
  appLabel := "shop"
  name := "widget"
  entityType := "shop.widget"
  plural := "widgets"
  table := "shop_widget"
  keyKind := .autoIncrement
  eligibility := [.publicId]
  graph := some (.node "Widget")

/-- A registry of widgets and nothing else. -/
def widgets : Registry := ⟨[widget], [("Widget", "shop.widget")], [("widgets", "shop.widget")]⟩

theorem built_widgets : Built widgets := .register .empty (show empty.register widget = .ok widgets from rfl)

end Registry

end RowIdentity
