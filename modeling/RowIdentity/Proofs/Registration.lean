import RowIdentity.Proofs.Registry
import RowIdentity.Settings.Basic

/-!
# Registration, call after call

* `Model.Apart`, `Model.Collides` — two models without a name in common, and the first name of a model that is taken;
* `Registry.offerAll` — calls that register models, one after another, with their replies and the registry they leave;
* `Registry.Lists` — what a registry shows is what was accepted, under exactly its names;
* `Registry.Indexed.taken?_eq_none_iff_free`, `collides_of_taken?` — **the indexes see every collision**, and the first
  one is named;
* `Indexed.offer_cases` — what one call does; `Built.models_offerAll`, `Built.foldlM_register` — by induction, what a
  sequence of calls does, with or without an end at the first refusal;
* `registration_exact` — **who is accepted, what a refusal names, and what the look-ups find**, after any sequence of
  calls, and when the configured models make a registry.
-/

namespace RowIdentity

/-! ## Names in common -/

/-- The two models have no name in common: no entity type, no graph type name and no plural. -/
structure Model.Apart (a m : Model) : Prop where
  entityType : a.entityType ≠ m.entityType
  graphName : ∀ name, a.graphName? = some name → m.graphName? ≠ some name
  plural : a.plural ≠ m.plural

/-- The model has no name in common with any of the others. -/
def Model.Free (accepted : List Model) (m : Model) : Prop := ∀ a ∈ accepted, a.Apart m

/-- The first name of a model that one of the others bears: its entity type, its graph type name, its plural. -/
inductive Model.Collides (accepted : List Model) (m : Model) : String → Prop
  | entityType (htype : ∃ a ∈ accepted, a.entityType = m.entityType) : Collides accepted m m.entityType
  | graphName {name : String} (htype : ∀ a ∈ accepted, a.entityType ≠ m.entityType) (hname : m.graphName? = some name)
      (hgraph : ∃ a ∈ accepted, a.graphName? = some name) : Collides accepted m name
  | plural (htype : ∀ a ∈ accepted, a.entityType ≠ m.entityType)
      (hgraph : ∀ name, m.graphName? = some name → ∀ a ∈ accepted, a.graphName? ≠ some name)
      (hplural : ∃ a ∈ accepted, a.plural = m.plural) : Collides accepted m m.plural

theorem Model.Free.not_collides {accepted : List Model} {m : Model} (h : m.Free accepted) (name : String) :
    ¬ m.Collides accepted name := by
  intro hname
  cases hname with
  | entityType htype =>
    obtain ⟨a, ha, hsame⟩ := htype
    exact (h a ha).entityType hsame
  | graphName _ hm hgraph =>
    obtain ⟨a, ha, hsame⟩ := hgraph
    exact (h a ha).graphName name hsame hm
  | plural _ _ hplural =>
    obtain ⟨a, ha, hsame⟩ := hplural
    exact (h a ha).plural hsame

/-- There is one first name. -/
theorem Model.Collides.unique {accepted : List Model} {m : Model} {name name' : String}
    (h : m.Collides accepted name) (h' : m.Collides accepted name') : name = name' := by
  cases h with
  | entityType htype =>
    obtain ⟨a, ha, hsame⟩ := htype
    cases h' with
    | entityType _ => rfl
    | graphName htype' _ _ | plural htype' _ _ => exact absurd hsame (htype' a ha)
  | graphName htype hname hgraph =>
    cases h' with
    | entityType htype' =>
      obtain ⟨a, ha, hsame⟩ := htype'
      exact absurd hsame (htype a ha)
    | graphName _ hname' _ => exact Option.some.inj (hname.symm.trans hname')
    | plural _ hgraph' _ =>
      obtain ⟨a, ha, hsame⟩ := hgraph
      exact absurd hsame (hgraph' name hname a ha)
  | plural htype hgraph hplural =>
    cases h' with
    | entityType htype' =>
      obtain ⟨a, ha, hsame⟩ := htype'
      exact absurd hsame (htype a ha)
    | graphName _ hname' hgraph' =>
      obtain ⟨a, ha, hsame⟩ := hgraph'
      exact absurd hsame (hgraph name' hname' a ha)
    | plural _ _ _ => rfl

namespace Registry

variable {r : Registry} {m : Model}

/-! ## Calls -/

/-- The replies to some calls, one after another, and the registry after the last one. -/
def offerAll : Registry → List Model → List (IdResult Model) × Registry
  | r, [] => ([], r)
  | r, m :: ms =>
    let (reply, r) := r.offer m
    let (replies, r) := r.offerAll ms
    (reply :: replies, r)

/-- The registry shows the accepted models in their order, and finds each of them under exactly its names. -/
structure Lists (r : Registry) (accepted : List Model) : Prop where
  models : r.models = accepted
  entityTypes : r.entityTypes = accepted.map (·.entityType)
  get? : ∀ ty m, r.get? ty = some m ↔ m ∈ accepted ∧ m.entityType = ty
  byGraphName? : ∀ name m, r.byGraphName? name = some m ↔ m ∈ accepted ∧ m.graphName? = some name
  byPlural? : ∀ plural m, r.byPlural? plural = some m ↔ m ∈ accepted ∧ m.plural = plural

theorem Indexed.lists (h : Indexed r) : r.Lists r.models :=
  ⟨rfl, rfl, h.get?_eq_some_iff, h.byGraphName?_eq_some_iff, h.byPlural?_eq_some_iff⟩

/-! ## Names that are taken -/

theorem isSome_get?_iff (r : Registry) (ty : String) :
    (r.get? ty).isSome = true ↔ ∃ a ∈ r.models, a.entityType = ty := by
  simp [Registry.get?]

theorem Indexed.isSome_graphIndex_iff (h : Indexed r) (name : String) :
    (indexed? r.graphIndex name).isSome = true ↔ ∃ a ∈ r.models, a.graphName? = some name := by
  rw [← not_iff_not, Bool.not_eq_true, indexed?_eq_none_iff, h.graphIndex]
  simp only [List.map_filterMap, List.mem_filterMap, Option.map_map, Option.map_eq_some_iff, Function.comp_apply,
    exists_eq_right]

theorem Indexed.isSome_pluralIndex_iff (h : Indexed r) (plural : String) :
    (indexed? r.pluralIndex plural).isSome = true ↔ ∃ a ∈ r.models, a.plural = plural := by
  rw [← not_iff_not, Bool.not_eq_true, indexed?_eq_none_iff, h.pluralIndex, List.map_map]
  simp only [List.mem_map, Function.comp_apply]

/-- **A model whose names are all free has no name in common with any other.** -/
theorem Indexed.taken?_eq_none_iff_free (h : Indexed r) (m : Model) : r.taken? m = none ↔ m.Free r.models := by
  rw [Registry.taken?_eq_none_iff]
  have hgraph (name : String) : name ∉ r.graphIndex.map (·.1) ↔ ∀ a ∈ r.models, a.graphName? ≠ some name := by
    rw [← indexed?_eq_none_iff, ← Bool.not_eq_true, h.isSome_graphIndex_iff]
    push Not
    rfl
  have hplural : m.plural ∉ r.pluralIndex.map (·.1) ↔ ∀ a ∈ r.models, a.plural ≠ m.plural := by
    rw [← indexed?_eq_none_iff, ← Bool.not_eq_true, h.isSome_pluralIndex_iff]
    push Not
    rfl
  have htype : m.entityType ∉ r.models.map (·.entityType) ↔ ∀ a ∈ r.models, a.entityType ≠ m.entityType := by
    simp only [List.mem_map, not_exists, not_and, ne_eq]
  simp only [hgraph, hplural, htype]
  constructor
  · intro ⟨ht, hg, hp⟩ a ha
    exact ⟨ht a ha, fun name hname hm => hg name hm a ha hname, hp a ha⟩
  · intro hfree
    exact ⟨fun a ha => (hfree a ha).entityType, fun name hm a ha hname => (hfree a ha).graphName name hname hm,
      fun a ha => (hfree a ha).plural⟩

/-- **The name a registry calls taken is the first of the model that another one bears.** -/
theorem Indexed.collides_of_taken? (h : Indexed r) {name : String} (htaken : r.taken? m = some name) :
    m.Collides r.models name := by
  unfold taken? at htaken
  split at htaken
  next htype =>
    obtain rfl := Option.some.inj htaken
    exact .entityType ((isSome_get?_iff r _).1 htype)
  next htype =>
    have htype : ∀ a ∈ r.models, a.entityType ≠ m.entityType := by
      rw [isSome_get?_iff] at htype
      push Not at htype
      exact htype
    split at htaken
    next n hn =>
      obtain rfl := Option.some.inj htaken
      obtain ⟨hname, hgraph⟩ := Option.filter_eq_some_iff.1 hn
      exact .graphName htype hname ((h.isSome_graphIndex_iff n).1 hgraph)
    next hn =>
      have hgraph : ∀ n, m.graphName? = some n → ∀ a ∈ r.models, a.graphName? ≠ some n := by
        intro n hname a ha hsame
        exact Option.filter_eq_none_iff.1 hn n hname ((h.isSome_graphIndex_iff n).2 ⟨a, ha, hsame⟩)
      split at htaken
      next hplural =>
        obtain rfl := Option.some.inj htaken
        exact .plural htype hgraph ((h.isSome_pluralIndex_iff _).1 hplural)
      · cases htaken

/-! ## One call -/

/-- **What a call does**: it takes a model whose names are free, and refuses any other by its first name that is taken,
with the registry as it was. -/
theorem Indexed.offer_cases (h : Indexed r) (m : Model) :
    (m.Free r.models ∧ r.offer m = (.ok m, r.add m)) ∨
      (∃ name, m.Collides r.models name ∧ r.offer m = (.error (.duplicateModel name), r)) := by
  rw [offer_eq]
  cases htaken : r.taken? m with
  | none => exact .inl ⟨(h.taken?_eq_none_iff_free m).1 htaken, rfl⟩
  | some name => exact .inr ⟨name, h.collides_of_taken? htaken, rfl⟩

theorem Indexed.offer_fst_eq_ok_iff (h : Indexed r) (m : Model) : (r.offer m).1 = .ok m ↔ m.Free r.models := by
  rcases h.offer_cases m with ⟨hfree, hoffer⟩ | ⟨name, hname, hoffer⟩
  · simp [hoffer, hfree]
  · have hnot : ¬ m.Free r.models := fun hfree => hfree.not_collides name hname
    simp [hoffer, hnot]

theorem Indexed.offer_fst_eq_error_iff (h : Indexed r) (m : Model) (e : IdError) :
    (r.offer m).1 = .error e ↔ ∃ name, m.Collides r.models name ∧ e = .duplicateModel name := by
  rcases h.offer_cases m with ⟨hfree, hoffer⟩ | ⟨name, hname, hoffer⟩
  · simp [hoffer, hfree.not_collides]
  · rw [hoffer]
    constructor
    · intro he
      exact ⟨name, hname, (Except.error.inj he).symm⟩
    · rintro ⟨name', hname', rfl⟩
      rw [hname.unique hname']

/-- A call that refuses a model leaves the registry as it is. -/
theorem Indexed.offer_snd_of_not_free (h : Indexed r) (hnot : ¬ m.Free r.models) : (r.offer m).2 = r := by
  rcases h.offer_cases m with ⟨hfree, -⟩ | ⟨name, -, hoffer⟩
  · exact absurd hfree hnot
  · rw [hoffer]

theorem register_of_offer {r' : Registry} (hoffer : r.offer m = (.ok m, r')) : r.register m = .ok r' := by
  rw [register, hoffer]

theorem Built.offer (h : Built r) (m : Model) : Built (r.offer m).2 := by
  rcases h.indexed.offer_cases m with ⟨-, hoffer⟩ | ⟨name, -, hoffer⟩
  · rw [hoffer]
    exact h.register (register_of_offer hoffer)
  · rw [hoffer]
    exact h

/-! ## A sequence of calls -/

theorem Built.offerAll (h : Built r) (ms : List Model) : Built (r.offerAll ms).2 := by
  induction ms generalizing r with
  | nil => exact h
  | cons m ms ih => exact ih (h.offer m)

/-- **After a sequence of calls the registry holds what it held and what was accepted since**, in their order. -/
theorem Built.models_offerAll (h : Built r) (ms : List Model) :
    (r.offerAll ms).2.models = r.models ++ (r.offerAll ms).1.filterMap Except.toOption := by
  induction ms generalizing r with
  | nil => simp [Registry.offerAll]
  | cons m ms ih =>
    have hrest := ih (h.offer m)
    rcases h.indexed.offer_cases m with ⟨-, hoffer⟩ | ⟨name, -, hoffer⟩
    · rw [hoffer] at hrest
      simp [Registry.offerAll, hoffer, hrest, Except.toOption]
    · rw [hoffer] at hrest
      simp [Registry.offerAll, hoffer, hrest, List.filterMap_cons, Except.toOption]

/-- **Models that are registered until one is refused** are all taken exactly if none has a name in common with an
earlier one or one that was there; a refusal is that of the first of them that has. -/
theorem Built.foldlM_register (h : Built r) (ms : List Model) :
    (∃ r', ms.foldlM Registry.register r = .ok r' ∧ Built r' ∧ r'.models = r.models ++ ms ∧
        (∀ m ∈ ms, m.Free r.models) ∧ ms.Pairwise Model.Apart) ∨
      (∃ before m after name, ms = before ++ m :: after ∧ (∀ b ∈ before, b.Free r.models) ∧
        before.Pairwise Model.Apart ∧ m.Collides (r.models ++ before) name ∧
        ms.foldlM Registry.register r = .error (.duplicateModel name)) := by
  induction ms generalizing r with
  | nil => exact .inl ⟨r, rfl, h, by simp, by simp, .nil⟩
  | cons m ms ih =>
    rw [List.foldlM_cons]
    rcases h.indexed.offer_cases m with ⟨hfree, hoffer⟩ | ⟨name, hname, hoffer⟩
    · have hreg := register_of_offer hoffer
      have hmodels := r.models_add m
      -- a model that is free of those there and of the first one is free of both
      have hsplit {l : List Model} (hl : ∀ b ∈ l, b.Free (r.add m).models) :
          (∀ b ∈ m :: l, b.Free r.models) ∧ ∀ b ∈ l, m.Apart b := by
        rw [hmodels] at hl
        refine ⟨?_, fun b hb => hl b hb m (by simp)⟩
        intro b hb
        rcases List.mem_cons.1 hb with rfl | hb
        · exact hfree
        · exact fun a ha => hl b hb a (List.mem_append_left _ ha)
      rw [hreg]
      rcases ih (h.register hreg) with
        ⟨r'', hrun, hbuilt, hmodels', hall, hapart⟩ | ⟨before, m', after, name, rfl, hall, hapart, hname, hrun⟩
      · obtain ⟨hmem, hm⟩ := hsplit hall
        exact .inl ⟨r'', hrun, hbuilt, by rw [hmodels', hmodels, List.append_assoc, List.singleton_append], hmem,
          .cons hm hapart⟩
      · obtain ⟨hmem, hm⟩ := hsplit hall
        rw [hmodels, List.append_assoc, List.singleton_append] at hname
        exact .inr ⟨m :: before, m', after, name, rfl, hmem, .cons hm hapart, hname, hrun⟩
    · have hreg : r.register m = .error (.duplicateModel name) := by rw [Registry.register, hoffer]
      rw [hreg]
      exact .inr ⟨[], m, ms, name, rfl, by simp, .nil, by simpa using hname, rfl⟩

end Registry

/-! ## Configured models -/

/-- The configured models make a registry that shows all of them, or the first one that cannot be accepted is named. -/
theorem Settings.registry_cases (s : Settings) {configured : List Model}
    (hconfigured : s.models.map ModelSettings.toModel = configured) :
    (∃ r, s.registry = .ok r ∧ r.Lists configured ∧ configured.Pairwise Model.Apart) ∨
      (∃ before m after name, configured = before ++ m :: after ∧ before.Pairwise Model.Apart ∧
        m.Collides before name ∧ s.registry = .error (.duplicateModel name)) := by
  subst hconfigured
  rcases Registry.Built.empty.foldlM_register (s.models.map ModelSettings.toModel) with
    ⟨r, hrun, hbuilt, hmodels, -, hapart⟩ | ⟨before, m, after, name, hsplit, -, hbefore, hname, hrun⟩
  · have hlists := hbuilt.indexed.lists
    rw [hmodels] at hlists
    exact .inl ⟨r, hrun, hlists, hapart⟩
  · exact .inr ⟨before, m, after, name, hsplit, hbefore, hname, hrun⟩

/-- A model with a name of an earlier one is not apart from it. -/
theorem Model.Collides.not_pairwise {before after : List Model} {m : Model} {name : String}
    (h : m.Collides before name) : ¬ (before ++ m :: after).Pairwise Model.Apart := by
  intro hapart
  have hfree : m.Free before := fun a ha => (List.pairwise_append.1 hapart).2.2 a ha m List.mem_cons_self
  exact hfree.not_collides name h

/-- **Registration is exact.** After any sequence of calls the registry shows the models that were accepted, in their
order, and finds each of them under its own names and nothing else. A further model is accepted exactly if it has no
name in common with these. Any other is refused by the first of its names that is taken, in the order of entity type,
graph type name and plural, and the registry stays as it is. So the configured models make a registry exactly if no two
of them have a name in common, and it shows all of them; if they make none, then the first one that cannot be accepted
is named. -/
theorem registration_exact (calls : List Model) :
    let accepted := (Registry.empty.offerAll calls).1.filterMap Except.toOption
    let r := (Registry.empty.offerAll calls).2
    r.Lists accepted ∧
      (∀ m, ((r.offer m).1 = .ok m ↔ m.Free accepted) ∧
        (∀ e, (r.offer m).1 = .error e ↔ ∃ name, m.Collides accepted name ∧ e = .duplicateModel name) ∧
        (¬ m.Free accepted → (r.offer m).2 = r)) ∧
      ∀ s : Settings, let configured := s.models.map ModelSettings.toModel
        ((∃ r', s.registry = .ok r') ↔ configured.Pairwise Model.Apart) ∧
        (∀ r', s.registry = .ok r' → r'.Lists configured) ∧
        ∀ e, s.registry = .error e → ∃ before m after name, configured = before ++ m :: after ∧
          before.Pairwise Model.Apart ∧ m.Collides before name ∧ e = .duplicateModel name := by
  intro accepted r
  have hbuilt : r.Built := Registry.Built.empty.offerAll calls
  have hmodels : r.models = accepted := Registry.Built.empty.models_offerAll calls
  rw [← hmodels]
  refine ⟨hbuilt.indexed.lists, fun m => ⟨hbuilt.indexed.offer_fst_eq_ok_iff m, hbuilt.indexed.offer_fst_eq_error_iff m,
    hbuilt.indexed.offer_snd_of_not_free⟩, ?_⟩
  intro s configured
  rcases s.registry_cases rfl with ⟨r', hrun, hlists, hapart⟩ | ⟨before, m, after, name, hsplit, hbefore, hname, hrun⟩
  · rw [hrun]
    refine ⟨⟨fun _ => hapart, fun _ => ⟨r', rfl⟩⟩, ?_, ?_⟩
    · intro r'' hr''
      obtain rfl := Except.ok.inj hr''
      exact hlists
    · intro e he
      cases he
  · rw [hrun]
    have hnot : ¬ configured.Pairwise Model.Apart := by
      intro hapart
      replace hsplit : configured = before ++ m :: after := hsplit
      rw [hsplit] at hapart
      exact hname.not_pairwise hapart
    refine ⟨⟨?_, fun hapart => absurd hapart hnot⟩, ?_, ?_⟩
    · rintro ⟨r', hr'⟩
      cases hr'
    · intro r' hr'
      cases hr'
    · intro e he
      exact ⟨before, m, after, name, hsplit, hbefore, hname, (Except.error.inj he).symm⟩

/-- Widgets under another entity type; the name of their graph type and their plural are as before. -/
def Registry.rival : Model := { widget with entityType := "shop.gadget" }

/-- Of widgets that are offered twice the second ones are refused, and so are their rivals, by the name of their graph
type. -/
theorem registration_exact_widgets :
    let r := (Registry.empty.offerAll [Registry.widget, Registry.widget]).2
    r.Lists [Registry.widget] ∧ (r.offer Registry.rival).1 = .error (.duplicateModel "Widget") ∧
      (r.offer Registry.rival).2 = r := by
  obtain ⟨hlists, hnext, -⟩ := registration_exact [Registry.widget, Registry.widget]
  have haccepted : (Registry.empty.offerAll [Registry.widget, Registry.widget]).1.filterMap Except.toOption =
      [Registry.widget] := rfl
  rw [haccepted] at hlists hnext
  have hrival : Registry.rival.Collides [Registry.widget] "Widget" :=
    .graphName (by decide) rfl ⟨Registry.widget, List.mem_cons_self, rfl⟩
  obtain ⟨-, herror, hsame⟩ := hnext Registry.rival
  exact ⟨hlists, (herror _).2 ⟨"Widget", hrival, rfl⟩, hsame fun hfree => hfree.not_collides "Widget" hrival⟩

end RowIdentity
