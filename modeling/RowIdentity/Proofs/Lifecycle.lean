import RowIdentity.Proofs.Backfill
import RowIdentity.Proofs.Registry

/-!
# The life of rows and their entries

* `Event`, `Chronicle` — what happens to a database, and which keys have been put in by a creation;
* `Memory.Owned` — every entry belongs to a stored row of a model that tracks public ids;
* `Memory.Grows` — entries may come, rows stay; `Inserted.owned`, `Owned.delete`, `Owned.load` — the other steps;
* `Chronicle.Sound`, `Sound.step` — the invariant, and that **no event breaks it**;
* `lifecycle_invariant` — **what holds after every course of events**.
-/

namespace RowIdentity

variable {registry : Registry} {moments : Nat → Moment} {t : Moment} {m m' m'' : Memory}

/-! ## Owned entries -/

/-- Every entry belongs to a stored row, and the model of the row tracks public ids. -/
def Memory.Owned (registry : Registry) (m : Memory) : Prop :=
  ∀ u e, m.mappings.entryById? u = some e →
    (m.row? e.entityType e.rowKey).isSome = true ∧ Memory.tracks registry e.entityType = true

namespace Memory

theorem tracks_eq_true_iff (registry : Registry) (ty : String) :
    tracks registry ty = true ↔ ∃ model, registry.get? ty = some model ∧ model.tracksPublicIds = true := by
  simp [tracks, Option.any_eq_true]

theorem Owned.empty (registry : Registry) : Owned registry empty := fun _ _ h => nomatch h

/-- Entries stay owned when rows are added. -/
theorem Owned.mono (h : Owned registry m) (hmappings : m'.mappings = m.mappings)
    (hrows : ∀ ty pk, (m.row? ty pk).isSome = true → (m'.row? ty pk).isSome = true) : Owned registry m' := by
  intro u e he
  rw [hmappings] at he
  obtain ⟨hrow, htracks⟩ := h u e he
  exact ⟨hrows _ _ hrow, htracks⟩

/-- One entry more, for a stored row of a model that tracks public ids. -/
theorem Owned.add (h : Owned registry m) {e : MappingEntry} (hrow : (m.row? e.entityType e.rowKey).isSome = true)
    (htracks : tracks registry e.entityType = true) : Owned registry { m with mappings := m.mappings.add e } := by
  intro u e' he'
  change (m.mappings.add e).entryById? u = some e' at he'
  rw [MappingTable.entryById?_add] at he'
  split at he'
  next => exact Option.some.inj he' ▸ ⟨hrow, htracks⟩
  next => exact h u e' he'

theorem isSome_row?_putRow (m : Memory) (r : Row) (ty : String) (pk : Int64) (h : (m.row? ty pk).isSome = true) :
    ((m.putRow r).row? ty pk).isSome = true := by
  rw [row?_putRow]
  split
  · rfl
  · exact h

/-! ## States that only gain entries -/

/-- From a regular state whose entries are owned the rows stay as they are, every row keeps its entry, and the state
stays regular with owned entries. -/
def Grows (registry : Registry) (m m' : Memory) : Prop :=
  m.Regular → Owned registry m →
    m'.Regular ∧ Owned registry m' ∧ m'.row? = m.row? ∧
      ∀ ty pk, (m.mappings.idOf? ty pk).isSome = true → (m'.mappings.idOf? ty pk).isSome = true

theorem Grows.refl (m : Memory) : Grows registry m m := fun hreg hown => ⟨hreg, hown, rfl, fun _ _ h => h⟩

theorem Grows.trans (h : Grows registry m m') (h' : Grows registry m' m'') : Grows registry m m'' := by
  intro hreg hown
  obtain ⟨hreg', hown', hrows, hkeeps⟩ := h hreg hown
  obtain ⟨hreg'', hown'', hrows', hkeeps'⟩ := h' hreg' hown'
  exact ⟨hreg'', hown'', hrows'.trans hrows, fun ty pk h => hkeeps' ty pk (hkeeps ty pk h)⟩

/-- A free entry for a stored row of a model that tracks public ids. -/
theorem Grows.add {e : MappingEntry} (hrow : (m.row? e.entityType e.rowKey).isSome = true)
    (htracks : tracks registry e.entityType = true) (hnone : m.mappings.idOf? e.entityType e.rowKey = none)
    (hfree : m.mappings.entryById? e.publicId = none) :
    Grows registry m { m with mappings := m.mappings.add e } := by
  intro hreg hown
  refine ⟨hreg.of_parts rfl (hreg.coherent.add hnone hfree), hown.add hrow htracks, rfl, fun ty pk h => ?_⟩
  change ((m.mappings.add e).idOf? ty pk).isSome = true
  rw [MappingTable.idOf?_add]
  split
  · rfl
  · exact h

theorem Grows.insert {e : MappingEntry} (hrow : (m.row? e.entityType e.rowKey).isSome = true)
    (htracks : tracks registry e.entityType = true) :
    Grows registry m { m with mappings := (m.mappings.insert e).2 } := by
  rcases m.mappings.insert_cases e with ⟨u, -, heq⟩ | ⟨-, -, heq⟩ | ⟨hnone, hfree, heq⟩
  · rw [heq]
    exact .refl m
  · rw [heq]
    exact .refl m
  · rw [heq]
    exact .add hrow htracks hnone hfree

/-- Entries for stored rows of a model that tracks public ids, one after another. -/
theorem Grows.insertEntries {es : List MappingEntry} (h : ∀ e ∈ es,
      (m.row? e.entityType e.rowKey).isSome = true ∧ tracks registry e.entityType = true) :
    Grows registry m (m.insertEntries es).2 := by
  rw [insertEntries_snd]
  induction es generalizing m with
  | nil => exact .refl m
  | cons e es ih =>
    obtain ⟨hrow, htracks⟩ := h e List.mem_cons_self
    refine (Grows.insert hrow htracks).trans ?_
    exact ih (m := { m with mappings := (m.mappings.insert e).2 }) fun e' he' => h e' (List.mem_cons_of_mem _ he')

theorem Grows.entryOrNew {ty : String} {pk : Int64} (hrow : (m.row? ty pk).isSome = true)
    (htracks : tracks registry ty = true) : Grows registry m (m.entryOrNew t ty pk).2 := by
  intro hreg
  rcases heq : m.entryOrNew t ty pk with ⟨_ | e, m'⟩
  · rw [entryOrNew_error heq]
    exact Grows.refl m hreg
  · obtain ⟨mappings, rest, hget, rfl⟩ := entryOrNew_ok heq
    rcases hreg.coherent.getOrInsert_cases hget with ⟨-, rfl⟩ | ⟨hnone, hfree, he, -, rfl⟩
    · exact Grows.refl m hreg
    · refine Grows.add ?_ ?_ ?_ hfree hreg
      · rw [he]; exact hrow
      · rw [he]; exact htracks
      · rw [he]; exact hnone

/-! ## Rows that come and go -/

/-- A row that went in leaves every other row its place and its entry. -/
theorem Inserted.isSome_row? {r : Row} (h : Inserted registry t m r m') (ty : String) (pk : Int64)
    (hrow : (m.row? ty pk).isSome = true) : (m'.row? ty pk).isSome = true := by
  rw [row?_congr h.tables]
  exact isSome_row?_putRow m r ty pk hrow

theorem Inserted.row? {r : Row} (h : Inserted registry t m r m') : m'.row? r.entityType r.pk = some r := by
  rw [row?_congr h.tables, row?_putRow, if_pos ⟨rfl, rfl⟩]

/-- The mapping table afterwards is that of the filed row's entry being looked up or made. -/
theorem Inserted.grows {r : Row} (h : Inserted registry t m r m') (hreg : m.Regular) (hown : Owned registry m) :
    Owned registry m' ∧
      (∀ ty pk, (m.mappings.idOf? ty pk).isSome = true → (m'.mappings.idOf? ty pk).isSome = true) ∧
      (tracks registry r.entityType = true → (m'.mappings.idOf? r.entityType r.pk).isSome = true) := by
  have hmap := h.mappings
  split at hmap
  next htracks =>
    obtain ⟨e, rest, hget⟩ := hmap
    have hentry := hreg.coherent.entryOf?_getOrInsert hget
    have hself : (m'.mappings.idOf? r.entityType r.pk).isSome = true := by
      rw [MappingTable.entryOf?, Option.bind_eq_some_iff] at hentry
      obtain ⟨u, hu, -⟩ := hentry
      rw [hu]
      rfl
    rcases hreg.coherent.getOrInsert_cases hget with ⟨-, heq⟩ | ⟨hnone, hfree, he, -, heq⟩
    · exact ⟨hown.mono heq h.isSome_row?, fun ty pk h => heq ▸ h, fun _ => hself⟩
    · refine ⟨?_, ?_, fun _ => hself⟩
      · -- the new entry belongs to the row that was just filed
        have hown' : Owned registry { m' with mappings := m.mappings } := hown.mono rfl h.isSome_row?
        have hadd := hown'.add (e := e) (by rw [he]; exact h.row? ▸ rfl) (by rw [he]; exact htracks)
        exact hadd.mono heq fun _ _ h => h
      · intro ty pk hid
        rw [heq, MappingTable.idOf?_add]
        split
        · rfl
        · exact hid
  next htracks => exact ⟨hown.mono hmap h.isSome_row?, fun ty pk h => hmap ▸ h, fun h => absurd h htracks⟩

theorem Owned.delete (hreg : m.Regular) (hown : Owned registry m) (ty : String) (pk : Int64) :
    Owned registry (m.delete ty pk).2 := by
  rw [delete_eq]
  split
  next =>
    intro u e he
    change ((m.mappings.remove ty pk).2.entryById? u) = some e at he
    rw [MappingTable.entryById?_remove] at he
    split at he
    next => cases he
    next hne =>
      obtain ⟨hrow, htracks⟩ := hown u e he
      refine ⟨?_, htracks⟩
      rw [row?_unmap, row?_dropRow, if_neg, hrow]
      -- an entry of the deleted row would have gone with it
      rintro ⟨rfl, rfl⟩
      exact hne (hreg.coherent.idOf_entry u e he)
  next => exact hown

/-- A deletion takes no other row's entry. -/
theorem idOf?_delete (m : Memory) (ty : String) (pk : Int64) {ty' : String} {pk' : Int64}
    (hne : (ty', pk') ≠ (ty, pk)) : (m.delete ty pk).2.mappings.idOf? ty' pk' = m.mappings.idOf? ty' pk' := by
  rw [delete_eq]
  split
  · change (m.mappings.remove ty pk).2.idOf? ty' pk' = _
    rw [MappingTable.idOf?_remove, if_neg hne.symm]
  · rfl

theorem mappings_load (now : Instant) (m : Memory) (ty : String) (rows : List (Int64 × Json)) :
    (m.load now ty rows).2.mappings = m.mappings := by
  have hfold : ∀ m : Memory, (rows.foldl (fun m p => m.putRow ⟨ty, p.1, p.2, now⟩) m).mappings = m.mappings := by
    induction rows with
    | nil => exact fun _ => rfl
    | cons p rows ih => exact fun m => ih (m.putRow _)
  obtain ⟨last, heq⟩ := load_snd now m ty rows
  rw [heq]
  exact hfold m

theorem isSome_row?_load (now : Instant) (m : Memory) (ty : String) (rows : List (Int64 × Json)) (ty' : String)
    (pk' : Int64) (h : (m.row? ty' pk').isSome = true) : ((m.load now ty rows).2.row? ty' pk').isSome = true := by
  have hfold : ∀ m : Memory, (m.row? ty' pk').isSome = true →
      ((rows.foldl (fun m p => m.putRow ⟨ty, p.1, p.2, now⟩) m).row? ty' pk').isSome = true := by
    induction rows with
    | nil => exact fun _ h => h
    | cons p rows ih => exact fun m h => ih _ (isSome_row?_putRow m _ _ _ h)
  obtain ⟨last, heq⟩ := load_snd now m ty rows
  rw [heq]
  exact hfold m h

end Memory

/-! ## Jobs and ids -/

/-- Asking for the id of a stored row. -/
theorem externalId_grows {r : Row} {w : World} (hreg : w.memory.Regular) {ty : String} {pk : Int64}
    (hrow : w.memory.row? ty pk = some r) :
    w.memory.Grows registry (World.run registry moments (externalId registry r) w).2.memory := by
  obtain ⟨hty, hpk⟩ := hreg.filed ty pk r hrow
  unfold externalId
  rw [World.run_bind, World.run_result]
  cases hmodel : registry.model r.entityType with
  | error e => exact .refl _
  | ok model =>
    rw [Registry.model_eq_ok_iff] at hmodel
    simp only [World.run_bind, World.run_currentScheme, World.run_idOf, World.memory_tick]
    cases hscheme : model.scheme w.flag with
    | legacy => exact .refl _
    | pk => exact .refl _
    | publicId =>
      have htracks := ((model.scheme_eq_publicId_iff w.flag).1 hscheme).2
      refine Memory.Grows.entryOrNew ?_ ((Memory.tracks_eq_true_iff _ _).2 ⟨model, hmodel, htracks⟩)
      rw [hty, hpk, hrow]
      rfl

/-- A batch gives entries to stored rows alone. -/
theorem backfillBatch_grows {ty : String} (htracks : Memory.tracks registry ty = true) (pks : List Int64)
    (w : World) :
    w.memory.Grows registry (World.exec registry moments (backfillBatch ty false pks).run w).2.memory := by
  rw [World.exec_backfillBatch]
  split
  · exact .refl _
  · refine Memory.Grows.insertEntries fun e he => ?_
    obtain ⟨hty, hpk⟩ := mem_newEntries he
    rw [hty]
    exact ⟨((w.memory.mem_survivors_iff ty pks e.rowKey).1 hpk).2.2, htracks⟩

theorem backfillModel_grows {model : Model} (hmodel : registry.get? model.entityType = some model) (batchSize : Nat) :
    Action.Moves registry moments (Memory.Grows registry) (backfillModel false batchSize model) :=
  backfillModel_moves .refl (fun _ _ _ => .trans)
    (fun htracks => backfillBatch_grows ((Memory.tracks_eq_true_iff _ _).2 ⟨model, hmodel, htracks⟩)) batchSize

theorem backfillAll_grows (hi : registry.Indexed) (batchSize : Nat) (app : Option String) :
    Action.Moves registry moments (Memory.Grows registry) (backfillAll registry false batchSize app) := by
  refine backfillAll_moves .refl (fun _ _ _ => .trans) (fun model hmem htracks => ?_) batchSize app
  have hmodel := (hi.get?_eq_some_iff model.entityType model).2 ⟨hmem, rfl⟩
  exact backfillBatch_grows ((Memory.tracks_eq_true_iff _ _).2 ⟨model, hmodel, htracks⟩)

theorem backfillRow_grows (app name : String) (pk : Int64) :
    Action.Moves registry moments (Memory.Grows registry) (backfillRow registry false app name pk) := by
  intro w
  by_cases h : ∃ model, registry.byNames? app name = some model ∧ model.tracksPublicIds = true
  · obtain ⟨model, hmodel, htracks⟩ := h
    rw [World.run_backfillRow hmodel htracks]
    have hget := hmodel
    rw [Registry.byNames?] at hget
    have hty := Registry.get?_entityType hget
    split
    next => exact .refl _
    next hrow =>
      split
      · exact .refl _
      · change w.memory.Grows registry (w.memory.insertEntries (newEntries moments model.entityType _ [pk])).2
        refine Memory.Grows.insertEntries fun e he => ?_
        obtain ⟨hety, hpk⟩ := mem_newEntries he
        rw [List.mem_singleton] at hpk
        rw [hety, hpk]
        refine ⟨?_, (Memory.tracks_eq_true_iff _ _).2 ⟨model, hty ▸ hget, htracks⟩⟩
        exact Option.isSome_iff_ne_none.2 (by simpa using hrow)
  · rw [World.memory_run_backfillRow_of_not]
    · exact .refl _
    · intro model hmodel
      exact Bool.eq_false_iff.2 fun htracks => h ⟨model, hmodel, htracks⟩

/-! ## Courses of events -/

/-- What happens to a database from outside. -/
inductive Event where
  /-- A row is created under the next key. -/
  | create (entityType : String) (data : Json)
  /-- A row is created under a given key. -/
  | createAt (entityType : String) (pk : Int64) (data : Json)
  /-- A row is deleted. -/
  | delete (entityType : String) (pk : Int64)
  /-- Rows are loaded as they are. -/
  | load (entityType : String) (rows : List (Int64 × Json))
  /-- A registered model is backfilled. -/
  | backfillModel (entityType : String) (batchSize : Nat)
  /-- All models are backfilled, or those of one app. -/
  | backfillAll (batchSize : Nat) (app : Option String)
  /-- One row is backfilled. -/
  | backfillRow (app name : String) (pk : Int64)
  /-- The id of a stored row is asked for. -/
  | identify (entityType : String) (pk : Int64)
  /-- A flag is set. -/
  | setFlag (name : String) (on : Bool)

/-- A database, and the keys of the rows that were put in by a creation and not deleted since. -/
structure Chronicle where
  world : World
  created : List (String × Int64)

namespace Chronicle

/-- The empty database. -/
def start (flag : Bool) : Chronicle := ⟨.empty flag, []⟩

/-- The chronicle after an action that creates and deletes nothing. -/
def after (c : Chronicle) (registry : Registry) (moments : Nat → Moment) {α : Type} (a : Action α) : Chronicle :=
  { c with world := (World.run registry moments a c.world).2 }

/-- The chronicle after an action that may have put in a row. -/
def afterCreation (c : Chronicle) (registry : Registry) (moments : Nat → Moment) (a : Action Row) : Chronicle :=
  match World.run registry moments a c.world with
  | (.ok r, w) => ⟨w, (r.entityType, r.pk) :: c.created⟩
  | (.error _, w) => ⟨w, c.created⟩

/-- One event. The id of a row that is not stored is not asked for, and what is not registered is not backfilled. -/
def step (registry : Registry) (moments : Nat → Moment) (c : Chronicle) : Event → Chronicle
  | .create ty data => c.afterCreation registry moments (liftM (Store.create ty data))
  | .createAt ty pk data => c.afterCreation registry moments (liftM (Store.createAt ty pk data))
  | .delete ty pk =>
    { c.after registry moments (liftM (Store.delete ty pk) : Action Bool) with
      created := c.created.filter (· ≠ (ty, pk)) }
  | .load ty rows =>
    { c with world := { c.world with
        memory := (c.world.memory.load (moments c.world.calls).now ty rows).2
        calls := c.world.calls + 1 } }
  | .backfillModel ty batchSize =>
    match registry.get? ty with
    | some model => c.after registry moments (RowIdentity.backfillModel false batchSize model)
    | none => c
  | .backfillAll batchSize app => c.after registry moments (RowIdentity.backfillAll registry false batchSize app)
  | .backfillRow app name pk => c.after registry moments (RowIdentity.backfillRow registry false app name pk)
  | .identify ty pk =>
    match c.world.memory.row? ty pk with
    | some r => c.after registry moments (externalId registry r)
    | none => c
  | .setFlag name on => { c with world := { c.world with flags := c.world.flags.set name on } }

/-- The chronicle after a course of events. -/
def run (registry : Registry) (moments : Nat → Moment) (flag : Bool) (events : List Event) : Chronicle :=
  events.foldl (step registry moments) (start flag)

/-! ## The invariant -/

/-- The state is regular, entries are owned, and every created row whose model tracks public ids has a public id. -/
structure Sound (registry : Registry) (c : Chronicle) : Prop where
  regular : c.world.memory.Regular
  owned : c.world.memory.Owned registry
  mapped : ∀ ty pk, (ty, pk) ∈ c.created → Memory.tracks registry ty = true →
    (c.world.memory.mappings.idOf? ty pk).isSome = true

variable {c : Chronicle}

theorem Sound.start (registry : Registry) (flag : Bool) : Sound registry (start flag) :=
  ⟨.empty, .empty registry, fun _ _ h => nomatch h⟩

/-- Actions under which the state only gains entries. -/
theorem Sound.after (h : Sound registry c) {α : Type} {a : Action α}
    (ha : c.world.memory.Grows registry (World.run registry moments a c.world).2.memory) :
    Sound registry (c.after registry moments a) := by
  obtain ⟨hreg, hown, -, hkeeps⟩ := ha h.regular h.owned
  exact ⟨hreg, hown, fun ty pk hmem htracks => hkeeps ty pk (h.mapped ty pk hmem htracks)⟩

/-- A creation puts in a row with its entry, or leaves the state as it was. -/
theorem Sound.afterCreation (h : Sound registry c) {a : Action Row} (result : Except Fault Row × Memory)
    (hrun : World.run registry moments a c.world =
      (result.1.mapError Fault.toError, { c.world with memory := result.2, calls := c.world.calls + 1 }))
    (hok : ∀ r m', result = (.ok r, m') → ∃ t, Memory.Inserted registry t c.world.memory r m')
    (herror : ∀ f m', result = (.error f, m') → m' = c.world.memory) :
    Sound registry (c.afterCreation registry moments a) := by
  obtain ⟨_ | r, m'⟩ := result
  · have hm := herror _ m' rfl
    simp only [Chronicle.afterCreation, hrun, Except.mapError]
    exact ⟨hm ▸ h.regular, hm ▸ h.owned, hm ▸ h.mapped⟩
  · obtain ⟨t, hins⟩ := hok r m' rfl
    obtain ⟨hown, hkeeps, hself⟩ := hins.grows h.regular h.owned
    simp only [Chronicle.afterCreation, hrun, Except.mapError]
    refine ⟨h.regular.inserted hins, hown, fun ty pk hmem htracks => ?_⟩
    rcases List.mem_cons.1 hmem with heq | hmem
    · obtain ⟨rfl, rfl⟩ := Prod.mk.inj heq
      exact hself htracks
    · exact hkeeps ty pk (h.mapped ty pk hmem htracks)

/-- A deletion takes the row with its entry. -/
theorem Sound.delete (h : Sound registry c) (ty : String) (pk : Int64) :
    Sound registry (c.step registry moments (.delete ty pk)) := by
  refine ⟨h.regular.delete ty pk, h.owned.delete h.regular ty pk, fun ty' pk' hmem htracks => ?_⟩
  obtain ⟨hmem, hne⟩ := List.mem_filter.1 hmem
  have hkeep := h.mapped ty' pk' hmem htracks
  rw [← Memory.idOf?_delete c.world.memory ty pk (of_decide_eq_true hne)] at hkeep
  exact hkeep

/-- Loaded rows may replace others, but they take no entry. -/
theorem Sound.load (h : Sound registry c) (ty : String) (rows : List (Int64 × Json)) :
    Sound registry (c.step registry moments (.load ty rows)) := by
  have hmappings := Memory.mappings_load (moments c.world.calls).now c.world.memory ty rows
  refine ⟨h.regular.load _ ty rows, ?_, fun ty' pk' hmem htracks => ?_⟩
  · exact h.owned.mono hmappings (Memory.isSome_row?_load _ _ ty rows)
  · have hkeep := h.mapped ty' pk' hmem htracks
    rw [← hmappings] at hkeep
    exact hkeep

/-- **No event breaks the invariant.** -/
theorem Sound.step (hi : registry.Indexed) (h : Sound registry c) (e : Event) :
    Sound registry (c.step registry moments e) := by
  cases e with
  | create ty data =>
    exact h.afterCreation (Memory.create registry (moments c.world.calls) c.world.memory ty data) rfl
      (fun r m' heq => ⟨_, (Memory.create_ok heq).2.2⟩) (fun f m' heq => Memory.create_error heq)
  | createAt ty pk data =>
    exact h.afterCreation (Memory.createAt registry (moments c.world.calls) c.world.memory ty pk data) rfl
      (fun r m' heq => ⟨_, (Memory.createAt_ok heq).2.2⟩) (fun f m' heq => Memory.createAt_error heq)
  | delete ty pk => exact h.delete ty pk
  | load ty rows => exact h.load ty rows
  | backfillModel ty batchSize =>
    simp only [Chronicle.step]
    split
    next model hmodel =>
      have hty := Registry.get?_entityType hmodel
      exact h.after (backfillModel_grows (hty ▸ hmodel) batchSize c.world)
    next => exact h
  | backfillAll batchSize app => exact h.after (backfillAll_grows hi batchSize app c.world)
  | backfillRow app name pk => exact h.after (backfillRow_grows app name pk c.world)
  | identify ty pk =>
    simp only [Chronicle.step]
    split
    next r hrow => exact h.after (externalId_grows h.regular hrow)
    next => exact h
  | setFlag name on => exact ⟨h.regular, h.owned, h.mapped⟩

/-- **The invariant holds after every course of events.** -/
theorem Sound.run (hi : registry.Indexed) (moments : Nat → Moment) (flag : Bool) (events : List Event) :
    Sound registry (run registry moments flag events) := by
  have hfold : ∀ c, Sound registry c → Sound registry (events.foldl (Chronicle.step registry moments) c) := by
    induction events with
    | nil => exact fun _ h => h
    | cons e events ih => exact fun c h => ih _ (h.step hi e)
  exact hfold _ (.start registry flag)

end Chronicle

/-- What can be relied on, whatever has happened. -/
structure Chronicle.InOrder (registry : Registry) (c : Chronicle) : Prop where
  /-- Every row is filed under its own entity type and key. -/
  filed : ∀ ty rows pk r, (ty, rows) ∈ c.world.memory.tables → (pk, r) ∈ rows → r.entityType = ty ∧ r.pk = pk
  /-- Every entry is found under its own public id. -/
  identified : ∀ u e, c.world.memory.mappings.entryById? u = some e → e.publicId = u
  /-- The two indexes of the mapping table are inverse to each other. -/
  inverse : ∀ ty pk u, c.world.memory.mappings.idOf? ty pk = some u ↔
    ∃ e, c.world.memory.mappings.entryById? u = some e ∧ e.entityType = ty ∧ e.rowKey = pk
  /-- Every entry belongs to a stored row whose model tracks public ids. -/
  owned : ∀ u e, c.world.memory.mappings.entryById? u = some e →
    (∃ r, c.world.memory.row? e.entityType e.rowKey = some r) ∧
      ∃ model, registry.get? e.entityType = some model ∧ model.tracksPublicIds = true
  /-- Every stored row that was created under such a model has exactly one entry. -/
  entered : ∀ ty pk r model, c.world.memory.row? ty pk = some r → (ty, pk) ∈ c.created →
    registry.get? ty = some model → model.tracksPublicIds = true →
      ∃ e, c.world.memory.mappings.entriesOf ty pk = [e]

/-- **The life of rows and their entries.** After every course of events, under whatever flags and draws, rows,
entries and indexes are in order. -/
theorem lifecycle_invariant (hreg : registry.Built) (moments : Nat → Moment) (flag : Bool) (events : List Event) :
    (Chronicle.run registry moments flag events).InOrder registry := by
  have h := Chronicle.Sound.run hreg.indexed moments flag events
  have hcoherent := h.regular.coherent
  refine ⟨fun ty rows pk r hrows hr => h.regular.filed_of_mem hrows hr, hcoherent.publicId_of_entry,
    hcoherent.idOf?_eq_some_iff, ?_, ?_⟩
  · intro u e he
    obtain ⟨hrow, htracks⟩ := h.owned u e he
    exact ⟨Option.isSome_iff_exists.1 hrow, (Memory.tracks_eq_true_iff registry _).1 htracks⟩
  · intro ty pk r model _ hmem hmodel htracks
    have hid := h.mapped ty pk hmem ((Memory.tracks_eq_true_iff registry ty).2 ⟨model, hmodel, htracks⟩)
    obtain ⟨u, hu⟩ := Option.isSome_iff_exists.1 hid
    obtain ⟨e, he, -⟩ := hcoherent.exists_entryOf? hu
    exact ⟨e, by rw [hcoherent.entriesOf_eq, he]; rfl⟩

/-- A widget that was created, shown and reloaded has exactly one entry. -/
theorem lifecycle_invariant_widget :
    ∃ e, (Chronicle.run .widgets (fun _ => .start) true
      [.create "shop.widget" .null, .identify "shop.widget" 1, .setFlag publicIdFlag false,
        .load "shop.widget" [(1, .null)], .backfillAll 10 none]).world.memory.mappings.entriesOf
          "shop.widget" 1 = [e] :=
  (lifecycle_invariant Registry.built_widgets (fun _ => .start) true _).entered "shop.widget" 1 .widget
    Registry.widget rfl List.mem_cons_self rfl rfl

end RowIdentity
