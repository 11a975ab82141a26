import RowIdentity.Proofs.Concurrency.Handlers

/-!
# A service with many calls in progress

* `Job`, `Service`, `Move` — what is asked of a service, its state, and how it moves on: a call in progress makes its
  next call of the store, a new one starts, rows are loaded;
* `Service.raced` — the keys of rows that were deleted while another call was in progress, or whose ids were asked for
  after they had gone;
* `Service.Sound`, `Sound.step` — rows that have entries, and rows that calls in progress know to be stored, are stored
  or have raced, and **no move breaks this**;
* `Service.orphans_subset_raced` — **an entry without a row is that of a row that has raced**;
* `Service.orphan_inherited` — such a race leaves an entry without a row behind, and the next row under the key takes
  the id over.
-/

namespace RowIdentity

/-- What is asked of a service. -/
inductive Job where
  | getRow (plural raw : String)
  | listRows (plural : String) (params : ListParams)
  | createRow (plural : String) (data : Json)
  | deleteRow (plural raw : String)
  | query (vars : Graph.Variables) (text : String) (operation : Option String)
  | backfill (model : Model) (batchSize : Nat)

/-- A program whose result does not matter. -/
def Program.discard {α : Type} (p : Program Backend α) : Program Backend Unit := p.bind fun _ => .done ()

def Job.program (registry : Registry) : Job → Program Backend Unit
  | getRow plural raw => (RowIdentity.getRow registry plural raw).run.discard
  | listRows plural params => (RowIdentity.listRows registry plural params).run.discard
  | createRow plural data => (RowIdentity.createRow registry plural data).run.discard
  | deleteRow plural raw => (RowIdentity.deleteRow registry plural raw).run.discard
  | query vars text operation => (Graph.execute registry vars text operation).discard
  | backfill model batchSize => (backfillModel false batchSize model).run.discard

/-- A service with its database, what is left to do of the calls in progress, and the rows that were read so far. -/
structure Service where
  world : World
  running : List (Program Backend Unit)
  seen : List Row
  /-- The keys of rows that were deleted while another call was in progress, or whose ids were asked for after they had
  gone. -/
  raced : List (String × Int64)

inductive Move where
  | start (job : Job)
  /-- The id of a row is asked for, by its place among the rows that have been read. -/
  | identify (place : Nat)
  /-- A call in progress makes its next call of the store, or ends. -/
  | advance (place : Nat)
  /-- Rows are loaded as they are. -/
  | load (entityType : String) (rows : List (Int64 × Json))
  | setFlag (on : Bool)

namespace Service

variable (registry : Registry) (moments : Nat → Moment)

/-- The service after a call of a call in progress. -/
def afterCall (s : Service) (place : Nat) (c : BackendCall) (next : c.Reply → Program Backend Unit) : Service where
  world := (s.world.answer registry moments c).2
  running := s.running.set place (next (s.world.answer registry moments c).1)
  seen := s.seen ++ c.rows (s.world.answer registry moments c).1
  raced := if s.running.length ≤ 1 then s.raced else c.deletes ++ s.raced

/-- The service after the id of a row was asked for. -/
def identify (s : Service) (r : Row) : Service :=
  { s with
    running := s.running ++ [(externalId registry r).run.discard]
    raced := if (s.world.memory.row? r.entityType r.pk).isSome then s.raced else r.key :: s.raced }

def step (s : Service) : Move → Service
  | .start job => { s with running := s.running ++ [job.program registry] }
  | .identify place =>
    match s.seen[place]? with
    | some r => s.identify registry r
    | none => s
  | .advance place =>
    match s.running[place]? with
    | some (.call c next) => s.afterCall registry moments place c next
    | some (.done _) => { s with running := s.running.eraseIdx place }
    | none => s
  | .load ty rows =>
    { s with world := { s.world with
        memory := (s.world.memory.load (moments s.world.calls).now ty rows).2
        calls := s.world.calls + 1 } }
  | .setFlag on => { s with world := { s.world with flags := s.world.flags.set publicIdFlag on } }

/-- The service after a course of moves, from an empty database on. -/
def run (flag : Bool) (moves : List Move) : Service := moves.foldl (step registry moments) ⟨.empty flag, [], [], []⟩

variable {registry moments} {s : Service}

/-- The keys of rows that are stored or have raced. -/
def accounted (s : Service) : Keys := {k | (s.world.memory.row? k.1 k.2).isSome = true ∨ k ∈ s.raced}

/-- The keys of entries without a row. -/
def orphans (s : Service) : Keys :=
  {k | s.world.memory.row? k.1 k.2 = none ∧ ∃ u e, s.world.memory.mappings.entryById? u = some e ∧ e.key = k}

/-! ## The invariant -/

/-- The state is regular, calls in progress know of no rows but those that are accounted for, and all entries are of
rows that are accounted for. -/
structure Sound (s : Service) : Prop where
  regular : s.world.memory.Regular
  running : ∀ p ∈ s.running, Program.Maps p s.accounted fun _ _ => True
  entries : ∀ u e, s.world.memory.mappings.entryById? u = some e → e.key ∈ s.accounted

theorem maps_discard {α : Type} {p : Program Backend α} {K : Keys} {Q : α → Keys → Prop} (h : p.Maps K Q) :
    p.discard.Maps K fun _ _ => True := h.bind fun _ _ _ => trivial

/-- Jobs need not know of any rows beforehand. -/
theorem maps_job (registry : Registry) (job : Job) (K : Keys) : (job.program registry).Maps K fun _ _ => True := by
  cases job with
  | getRow plural raw => exact maps_discard maps_getRow
  | listRows plural params => exact maps_discard (maps_listRows params)
  | createRow plural data => exact maps_discard (maps_createRow data)
  | deleteRow plural raw => exact maps_discard maps_deleteRow
  | query vars text operation => exact maps_discard (maps_execute vars text operation)
  | backfill model batchSize => exact maps_discard (maps_backfillModel batchSize)

/-- All stays sound that leaves the entries alone and accounts for no less, if a call that starts knows no more than is
accounted for. -/
theorem Sound.extend (h : s.Sound) {s' : Service} (hregular : s'.world.memory.Regular)
    (hmappings : s'.world.memory.mappings = s.world.memory.mappings) (hK : s.accounted ⊆ s'.accounted)
    (hrunning : ∀ p ∈ s'.running, p ∈ s.running ∨ Program.Maps p s'.accounted fun _ _ => True) : s'.Sound where
  regular := hregular
  running p hp := (hrunning p hp).elim (fun hp => (h.running p hp).mono hK) id
  entries u e he := hK (h.entries u e (hmappings ▸ he))

theorem Sound.start (h : s.Sound) (job : Job) : Sound { s with running := s.running ++ [job.program registry] } := by
  refine h.extend h.regular rfl (Set.Subset.refl _) fun p hp => ?_
  rcases List.mem_append.1 hp with hp | hp
  · exact .inl hp
  · rw [List.mem_singleton.1 hp]
    exact .inr (maps_job registry job _)

theorem accounted_identify (s : Service) (r : Row) : s.accounted ⊆ (s.identify registry r).accounted := by
  refine fun k hk => hk.imp_right fun hk => ?_
  simp only [identify]
  split
  · exact hk
  · exact List.mem_cons_of_mem _ hk

theorem key_mem_identify (s : Service) (r : Row) : r.key ∈ (s.identify registry r).accounted := by
  by_cases hrow : (s.world.memory.row? r.entityType r.pk).isSome = true
  · exact .inl hrow
  · refine .inr ?_
    simp only [identify, if_neg hrow]
    exact List.mem_cons_self

theorem Sound.identify (h : s.Sound) (r : Row) : (s.identify registry r).Sound := by
  refine h.extend h.regular rfl (accounted_identify s r) fun p hp => ?_
  rcases List.mem_append.1 hp with hp | hp
  · exact .inl hp
  · rw [List.mem_singleton.1 hp]
    exact .inr (maps_discard (maps_externalId (key_mem_identify s r)))

theorem Sound.load (h : s.Sound) (ty : String) (rows : List (Int64 × Json)) :
    (s.step registry moments (.load ty rows)).Sound :=
  h.extend (h.regular.load _ ty rows) (Memory.mappings_load _ _ ty rows)
    (fun _ hk => hk.imp_left (Memory.isSome_row?_load _ _ ty rows _ _)) fun _ hp => .inl hp

/-! ## Calls of the store -/

theorem raced_afterCall {k : String × Int64} (hk : k ∈ s.raced) (place : Nat) (c : BackendCall)
    (next : c.Reply → Program Backend Unit) : k ∈ (s.afterCall registry moments place c next).raced := by
  simp only [afterCall]
  split
  · exact hk
  · exact List.mem_append_right _ hk

/-- What is not deleted is accounted for as before, and so is all that the call tells of. -/
theorem after_subset_afterCall (h : s.Sound) (place : Nat) (c : BackendCall) (next : c.Reply → Program Backend Unit) :
    s.accounted.after c (s.world.answer registry moments c).1 ⊆
      (s.afterCall registry moments place c next).accounted := by
  rintro ⟨ty, pk⟩ (⟨hrow | hraced, hkept⟩ | htold)
  · exact .inl ((Memory.answered registry _ _ c s.world.memory).isSome_row? hrow hkept)
  · exact .inr (raced_afterCall hraced place c next)
  · exact .inl (Memory.told_stored h.regular c htold)

/-- What is deleted while another call is in progress has raced. -/
theorem accounted_subset_afterCall (h : s.Sound) (place : Nat) (c : BackendCall)
    (next : c.Reply → Program Backend Unit) (hlength : 1 < s.running.length) :
    s.accounted ⊆ (s.afterCall registry moments place c next).accounted := by
  intro k hk
  by_cases hdeleted : k ∈ c.deletes
  · refine .inr ?_
    simp only [afterCall, if_neg (Nat.not_le.2 hlength)]
    exact List.mem_append_left _ hdeleted
  · exact after_subset_afterCall h place c next (.inl ⟨hk, hdeleted⟩)

/-- A row that is deleted leaves no entry behind. -/
theorem mem_raced_of_entry_deleted (h : s.Sound) {place : Nat} {c : BackendCall}
    {next : c.Reply → Program Backend Unit} {u : Uuid} {e : MappingEntry}
    (he : (s.afterCall registry moments place c next).world.memory.mappings.entryById? u = some e)
    (hold : s.world.memory.mappings.entryById? u = some e) (hdeleted : e.key ∈ c.deletes) : e.key ∈ s.raced := by
  cases c with
  | delete ty pk =>
    obtain ⟨rfl, rfl⟩ := Prod.mk.inj (List.mem_singleton.1 hdeleted)
    have hgone := Memory.row?_eq_none_of_entry_delete h.regular he
    exact (h.entries u e hold).resolve_left (by simp [MappingEntry.key, hgone])
  | _ => cases hdeleted

/-- The call goes on with what it has been told; where others are in progress, nothing they know is unaccounted for. -/
theorem maps_afterCall (h : s.Sound) {place : Nat} {c : BackendCall} {next : c.Reply → Program Backend Unit}
    (hrunning : s.running[place]? = some (.call c next)) {p : Program Backend Unit}
    (hp : p ∈ (s.afterCall registry moments place c next).running) :
    p.Maps (s.afterCall registry moments place c next).accounted fun _ _ => True := by
  obtain ⟨hplace, -⟩ := List.getElem?_eq_some_iff.1 hrunning
  obtain ⟨i, hi, rfl⟩ := List.mem_iff_getElem.1 hp
  change i < (s.running.set place _).length at hi
  change Program.Maps ((s.running.set place _)[i]) _ _
  by_cases hsame : place = i
  · simp only [hsame, List.getElem_set_self]
    have hnext := (h.running _ (List.mem_of_getElem? hrunning)).2 (s.world.answer registry moments c).1
    exact hnext.mono (after_subset_afterCall h place c next)
  · rw [List.getElem_set_ne hsame]
    rw [List.length_set] at hi
    have hlength : 1 < s.running.length := by omega
    exact (h.running _ (List.getElem_mem hi)).mono (accounted_subset_afterCall h place c next hlength)

theorem entry_afterCall (h : s.Sound) {place : Nat} {c : BackendCall} {next : c.Reply → Program Backend Unit}
    (hrunning : s.running[place]? = some (.call c next)) {u : Uuid} {e : MappingEntry}
    (he : (s.afterCall registry moments place c next).world.memory.mappings.entryById? u = some e) :
    e.key ∈ (s.afterCall registry moments place c next).accounted := by
  have hafter : s.accounted.after c _ ⊆ (s.afterCall registry moments place c next).accounted :=
    after_subset_afterCall h place c next
  obtain ⟨hmade, -⟩ := h.running _ (List.mem_of_getElem? hrunning)
  rcases (Memory.answered registry _ _ c s.world.memory).entry h.regular he with hold | hkey | hrow
  · by_cases hdeleted : e.key ∈ c.deletes
    · exact .inr (raced_afterCall (mem_raced_of_entry_deleted h he hold hdeleted) place c next)
    · exact hafter (.inl ⟨h.entries u e hold, hdeleted⟩)
  · exact hafter (.inl ⟨hmade _ hkey, BackendCall.not_mem_deletes_of_made hkey _⟩)
  · exact .inl hrow

theorem Sound.afterCall (h : s.Sound) {place : Nat} {c : BackendCall} {next : c.Reply → Program Backend Unit}
    (hrunning : s.running[place]? = some (.call c next)) : (s.afterCall registry moments place c next).Sound where
  regular := h.regular.answer _ c
  running _ hp := maps_afterCall h hrunning hp
  entries _ _ he := entry_afterCall h hrunning he

/-- **No move breaks the invariant.** -/
theorem Sound.step (h : s.Sound) (move : Move) : (s.step registry moments move).Sound := by
  cases move with
  | start job => exact h.start job
  | identify place =>
    simp only [Service.step]
    split
    next r _ => exact h.identify r
    next => exact h
  | advance place =>
    simp only [Service.step]
    split
    next c next hrunning => exact h.afterCall hrunning
    next => exact h.extend h.regular rfl (Set.Subset.refl _) fun p hp => .inl (List.mem_of_mem_eraseIdx hp)
    next => exact h
  | load ty rows => exact h.load ty rows
  | setFlag on => exact h.extend h.regular rfl (Set.Subset.refl _) fun _ hp => .inl hp

theorem Sound.foldl (h : s.Sound) (moves : List Move) : (moves.foldl (Service.step registry moments) s).Sound := by
  induction moves generalizing s with
  | nil => exact h
  | cons move moves ih => exact ih (h.step move)

theorem sound_run (registry : Registry) (moments : Nat → Moment) (flag : Bool) (moves : List Move) :
    (run registry moments flag moves).Sound := by
  have hempty : Sound ⟨.empty flag, [], [], []⟩ := ⟨.empty, nofun, fun _ _ he => nomatch he⟩
  exact hempty.foldl moves

/-! ## Entries without rows -/

/-- A row is deleted after a handler has read it and before the handler asks for its id. -/
def readerOutrun : List Move :=
  [.start (.createRow "widgets" .null)] ++ List.replicate 4 (.advance 0) ++
  [.start (.getRow "widgets" Uuid.zeroV4.toText)] ++ List.replicate 4 (.advance 0) ++
  [.start (.deleteRow "widgets" Uuid.zeroV4.toText)] ++ List.replicate 5 (.advance 1) ++
  List.replicate 3 (.advance 0)

/-- **Entries without rows are left by races only**: whatever calls are in progress, an entry whose row is not stored
is of a row that was deleted while another call was in progress, or whose id was asked for after it had gone. -/
theorem orphans_subset_raced (registry : Registry) (moments : Nat → Moment) (flag : Bool) (moves : List Move) :
    (run registry moments flag moves).orphans ⊆ {k | k ∈ (run registry moments flag moves).raced} := by
  rintro k ⟨hrow, u, e, he, rfl⟩
  refine ((sound_run registry moments flag moves).entries u e he).resolve_left fun hstored => ?_
  rw [hrow] at hstored
  cases hstored

/-- An entry without a row is left when all calls have ended. -/
example :
    (run .widgets .counted true readerOutrun).running = [] ∧
      ("shop.widget", 1) ∈ (run .widgets .counted true readerOutrun).orphans :=
  ⟨by rfl, by decide +kernel, .ending 12, ⟨.ending 12, "shop.widget", 1, ⟨0, 0⟩⟩, by decide +kernel, rfl⟩

/-- The id of a row is asked for after the row was deleted; no two calls are in progress at a time. -/
def staleRead : List Move :=
  [.start (.createRow "widgets" .null)] ++ List.replicate 4 (.advance 0) ++
  [.start (.deleteRow "widgets" Uuid.zeroV4.toText)] ++ List.replicate 5 (.advance 0) ++
  [.identify 0] ++ List.replicate 3 (.advance 0)

/-- The row that is put in next under the key of a deleted row has the id that was given to the deleted one. -/
theorem orphan_inherited :
    let s := run .widgets .counted true staleRead
    let s' := run .widgets .counted true (staleRead ++ [.load "shop.widget" [(1, .null)]])
    s.running = [] ∧ s.world.memory.row? "shop.widget" 1 = none ∧
      s.world.memory.mappings.idOf? "shop.widget" 1 = some (.ending 8) ∧
      s'.running = [] ∧ (s'.world.memory.row? "shop.widget" 1).isSome = true ∧
      s'.world.memory.mappings.idOf? "shop.widget" 1 = some (.ending 8) :=
  ⟨by rfl, by decide +kernel, by decide +kernel, by rfl, by decide +kernel, by decide +kernel⟩

end Service

end RowIdentity
