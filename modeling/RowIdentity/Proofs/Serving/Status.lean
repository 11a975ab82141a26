import RowIdentity.Proofs.Backfill
import RowIdentity.Proofs.Serving.Blame
import RowIdentity.Proofs.Serving.Request

/-!
# No request ends in an error of the server

* `serves_getRow`, `serves_listRows`, `serves_createRow`, `serves_deleteRow` — the handlers fail by the client's fault
  alone;
* `Program.Yields` — what a program answers in a proper state, with one rule for each way to build a program;
* `yields_execute` — no field of a graph query fails by another's fault;
* `yields_request` — **no request is answered with a status of 500 or above**;
* `Deed`, `World.course` — what is done to a database, one deed after another;
* `proper_after`, `proper_course` — no deed breaks properness, so **every course of deeds leads to a proper state**;
* `server_errors_unreachable` — **what holds after every course of deeds**.
-/

namespace RowIdentity

variable {registry : Registry} {moments : Nat → Moment} {m : Memory} {w : World}

open RowIdentity.Action (Serves)
open IdResult (ByClient)

/-! ## Handlers -/

theorem serves_getRow (plural raw : String) : Serves registry moments (getRow registry plural raw) fun _ => True := by
  refine (Serves.result (byClient_collection _ _)).bind fun model _ => ?_
  refine (serves_resolveLookup model raw).bind fun pk _ => ?_
  refine (serves_row _ _).bind fun r? _ => ?_
  split
  next r => exact (serves_externalId r).bind fun _ _ => .pure trivial
  next => exact .throw rfl

theorem serves_createRow (plural : String) (data : Json) :
    Serves registry moments (createRow registry plural data) fun _ => True := by
  refine (Serves.result (byClient_collection _ _)).bind fun model _ => ?_
  refine (serves_create _ data).bind fun r _ => ?_
  exact (serves_externalId r).bind fun _ _ => .pure trivial

theorem serves_deleteRow (plural raw : String) :
    Serves registry moments (deleteRow registry plural raw) fun _ => True := by
  refine (Serves.result (byClient_collection _ _)).bind fun model _ => ?_
  refine (serves_resolveLookup model raw).bind fun pk _ => ?_
  refine (serves_delete _ _).bind fun existed _ => ?_
  cases existed with
  | false => exact .throw rfl
  | true => exact .pure trivial

theorem serves_listedId (a : AnnotatedRow) : Serves registry moments (listedId registry a) fun _ => True := by
  unfold listedId
  split
  · exact .pure trivial
  · exact serves_externalId a.row

/-- **The query of a list may be asked**; one that may not is refused beforehand. -/
theorem serves_listQuery (model : Model) (params : ListParams) :
    Serves registry moments (listQuery model params) fun q => q.isValid = true := by
  refine (show Serves registry moments (annotateQuery model (.all model.entityType)) fun _ => True from
    (serves_currentScheme model).bind fun _ _ => .pure trivial).bind fun q _ => ?_
  have hcheck (q : RowQuery) (raw : String) : Serves registry moments
      (if q.isValid then pure q else throw (.invalidFormat raw q.complaint) : Action RowQuery)
      fun q => q.isValid = true := by
    split
    next hq => exact .pure hq
    next => exact .throw rfl
  cases params.publicId with
  | some raw =>
    refine (show Serves registry moments (some <$> liftM (parsePublicId raw) : Action (Option Uuid)) fun _ => True from
      ?_).bind fun publicId _ => hcheck _ _
    rw [map_eq_pure_bind]
    exact (Serves.result (byClient_parsePublicId raw)).bind fun _ _ => .pure trivial
  | none => exact (Serves.pure (Q := fun _ => True) trivial).bind fun publicId _ => hcheck _ _

theorem serves_listRows (plural : String) (params : ListParams) :
    Serves registry moments (listRows registry plural params) fun _ => True := by
  refine (Serves.result (byClient_collection _ _)).bind fun model _ => ?_
  refine (serves_listQuery model params).bind fun q hq => ?_
  refine (serves_countRows hq).bind fun total _ => ?_
  have hpage : Serves registry moments (pageRows q params.pageNumber params.pageSize total) fun _ => True := by
    rcases pageRows_cases q params.pageNumber params.pageSize total with ⟨offset, hfetch⟩ | hnone
    · exact hfetch ▸ serves_fetch hq
    · exact hnone ▸ .pure trivial
  refine hpage.bind fun found _ => ?_
  refine (Serves.mapM fun a => ?_).bind fun _ _ => .pure trivial
  exact (serves_listedId a).bind fun _ _ => .pure trivial

/-! ## Fields of graph queries -/

theorem serves_leafValue (model : Model) (r : Row) (leaf : Graph.Leaf) :
    Serves registry moments (Graph.leafValue registry model r leaf) fun _ => True := by
  unfold Graph.leafValue
  split
  · exact (serves_globalId r).bind fun _ _ => .pure trivial
  · split
    · exact .pure trivial
    · split
      · exact .pure trivial
      · exact .pure trivial

theorem serves_objectFields (model : Model) (r : Row) (leaves : List Graph.Leaf) :
    Serves registry moments (Graph.objectFields registry model r leaves) fun _ => True := by
  refine Serves.foldlM (fun done leaf => ?_) []
  exact (serves_leafValue model r leaf).bind fun _ _ => .pure trivial

theorem serves_rootRow (f : Graph.Field) (id : String) :
    Serves registry moments (Graph.rootRow registry f id) fun _ => True := by
  unfold Graph.rootRow
  split
  · exact serves_resolveNode _ _
  · split
    · exact serves_resolveNode _ _
    · exact .throw rfl

theorem byClient_idArgument (vars : Graph.Variables) (f : Graph.Field) : ByClient (Graph.idArgument vars f) := by
  unfold Graph.idArgument
  split
  · exact .error rfl
  · exact .ok _
  · exact .ok _
  · split
    · exact .ok _
    · exact .ok _
    · exact .ok _
    · exact .error rfl
  · exact .error rfl

theorem serves_rootValue (vars : Graph.Variables) (f : Graph.Field) :
    Serves registry moments (Graph.rootValue registry vars f) fun _ => True := by
  refine (Serves.result (byClient_idArgument vars f)).bind fun id _ => ?_
  refine (serves_rootRow f id).bind fun r? _ => ?_
  split
  · exact .pure trivial
  next r =>
    refine (Serves.result (byClient_model _ _)).bind fun model _ => ?_
    exact (serves_objectFields _ _ _).bind fun _ _ => .pure trivial

/-! ## Programs -/

/-- Run in a proper state, the program ends in one; and if unused ids could be drawn, its result is as `Q` says. -/
structure Program.Yields {α : Type} (registry : Registry) (moments : Nat → Moment) (p : Program Backend α)
    (Q : α → Prop) : Prop where
  proper : ∀ w, w.memory.Proper registry → (World.exec registry moments p w).2.memory.Proper registry
  yields : ∀ w, w.memory.Proper registry → World.Provided registry moments p w → Q (World.exec registry moments p w).1

namespace Program.Yields

variable {α β : Type} {p : Program Backend α} {Q : α → Prop} {Q' : β → Prop}

theorem done {x : α} (h : Q x) : Yields registry moments (.done x) Q := ⟨fun _ hw => hw, fun _ _ _ => h⟩

theorem of_serves {a : Action α} {R : α → Prop} (h : Serves registry moments a R) :
    Yields registry moments a.run ByClient := ⟨h.proper, h.fails⟩

/-- What comes next must keep states proper whatever it goes on from, as draws may have run out before. -/
theorem bind {f : α → Program Backend β} (hp : Yields registry moments p Q)
    (hproper : ∀ x, Yields registry moments (f x) fun _ => True) (hf : ∀ x, Q x → Yields registry moments (f x) Q') :
    Yields registry moments (p.bind f) Q' where
  proper := by
    intro w hw
    rw [show World.exec registry moments (p.bind f) w = _ from World.exec_bind p f w]
    exact (hproper _).proper _ (hp.proper w hw)
  yields := by
    intro w hw hdraws
    obtain ⟨hfirst, hrest⟩ := (throughout_program_bind p f w).1 hdraws
    rw [show World.exec registry moments (p.bind f) w = _ from World.exec_bind p f w]
    exact (hf _ (hp.yields w hw hfirst)).yields _ (hp.proper w hw) hrest

/-- A result that is made up of another. -/
theorem map {g : α → β} (hp : Yields registry moments p Q) (hg : ∀ x, Q x → Q' (g x)) :
    Yields registry moments (p.bind fun x => .done (g x)) Q' :=
  hp.bind (fun _ => .done trivial) fun x hx => .done (hg x hx)

/-- What every step keeps is kept. -/
theorem foldlM {f : β → α → Program Backend β} (hproper : ∀ b a, Yields registry moments (f b a) fun _ => True)
    (hf : ∀ b a, Q' b → Yields registry moments (f b a) Q') (l : List α) {b : β} (hb : Q' b) :
    Yields registry moments (l.foldlM f b) Q' := by
  have hrest : ∀ (l : List α) (b : β), Yields registry moments (l.foldlM f b) fun _ => True := by
    intro l
    induction l with
    | nil => exact fun _ => .done trivial
    | cons a l ih =>
      intro b
      rw [List.foldlM_cons]
      exact (hproper b a).bind ih fun b _ => ih b
  induction l generalizing b with
  | nil => exact .done hb
  | cons a l ih =>
    rw [List.foldlM_cons]
    exact (hf b a hb).bind (hrest l) fun b hb => ih hb

end Program.Yields

open Program (Yields)

/-! ## Answers to graph queries -/

/-- Every failure of an answer is by the client's fault. -/
def Graph.Answer.ByClient (a : Graph.Answer) : Prop := ∀ f ∈ a.failures, f.error.isClientError = true

theorem Graph.Answer.ByClient.add {a : Graph.Answer} (ha : a.ByClient) (key : String) {outcome : IdResult Json}
    (h : IdResult.ByClient outcome) : (a.add key outcome).ByClient := by
  cases outcome with
  | ok v => exact ha
  | error e =>
    intro f hf
    rcases List.mem_append.1 hf with hf | hf
    · exact ha f hf
    · rw [List.mem_singleton.1 hf]
      exact h e rfl

theorem yields_executeFields (vars : Graph.Variables) (fields : List Graph.Field) :
    Yields registry moments (Graph.executeFields registry vars fields) Graph.Answer.ByClient := by
  have hfield : ∀ f, Yields registry moments (Graph.rootValue registry vars f).run ByClient :=
    fun f => .of_serves (serves_rootValue vars f)
  refine Yields.foldlM (fun a f => ?_) (fun a f ha => ?_) fields nofun
  · exact (hfield f).map fun _ _ => trivial
  · exact (hfield f).map fun outcome h => ha.add f.key h

/-- **No field of a graph query fails by another's fault.** -/
theorem yields_execute (vars : Graph.Variables) (text : String) (operation : Option String) :
    Yields registry moments (Graph.execute registry vars text operation)
      fun r => ∀ answer, r = .ok answer → answer.ByClient := by
  unfold Graph.execute
  split
  · exact .done nofun
  · refine (yields_executeFields vars _).map fun answer h => ?_
    rintro _ ⟨⟩
    exact h

/-! ## Responses -/

/-- The response has no status of the server's faults. -/
def HttpResponse.Mild (r : HttpResponse) : Prop := r.status < 500

theorem mild_errorResponse {e : IdError} (h : e.isClientError = true) : (errorResponse e).Mild := by
  simp only [IdError.isClientError, Bool.and_eq_true, decide_eq_true_eq] at h
  exact h.2

theorem yields_handled {α : Type} {a : Action α} {Q : α → Prop} (h : Serves registry moments a Q)
    {success : α → HttpResponse} (hsuccess : ∀ x, (success x).Mild) :
    Yields registry moments (handled a success) HttpResponse.Mild := by
  refine (Yields.of_serves h).bind (fun r => ?_) fun r hr => ?_
  · cases r with
    | ok x => exact .done trivial
    | error e => exact .done trivial
  · cases r with
    | ok x => exact .done (hsuccess x)
    | error e => exact .done (mild_errorResponse (hr e rfl))

theorem yields_graphResponse (vars : Graph.Variables) (text : String) (operation : Option String) :
    Yields registry moments (graphResponse registry vars text operation) HttpResponse.Mild := by
  refine (yields_execute vars text operation).bind (fun r => ?_) fun r _ => ?_
  · cases r with
    | ok answer => exact .done trivial
    | error f => exact .done trivial
  · cases r with
    | ok answer => exact .done (show 200 < 500 by decide)
    | error f => exact .done (show 200 < 500 by decide)

theorem yields_respondGraph (request : HttpRequest) :
    Yields registry moments (respondGraph registry request) HttpResponse.Mild := by
  unfold respondGraph
  split
  · exact .done (show 415 < 500 by decide)
  · split
    · exact .done (show 400 < 500 by decide)
    · exact .done (show 422 < 500 by decide)
    · exact yields_graphResponse _ _ _

theorem yields_respondList (plural query : String) :
    Yields registry moments (respondList registry plural query) HttpResponse.Mild := by
  unfold respondList
  split
  · exact yields_handled (serves_listRows _ _) fun _ => show 200 < 500 by decide
  · exact .done (show 400 < 500 by decide)

theorem yields_respondCreate (plural : String) (request : HttpRequest) :
    Yields registry moments (respondCreate registry plural request) HttpResponse.Mild := by
  unfold respondCreate
  split
  · exact .done (show 400 < 500 by decide)
  · split
    · exact .done (show 415 < 500 by decide)
    · split
      · exact .done (show 400 < 500 by decide)
      · exact yields_handled (serves_createRow _ _) fun _ => show 201 < 500 by decide

theorem yields_withItem (plural id : String) {handler : String → String → Program Backend HttpResponse}
    (h : ∀ plural id, Yields registry moments (handler plural id) HttpResponse.Mild) :
    Yields registry moments (withItem plural id handler) HttpResponse.Mild := by
  unfold withItem
  split
  · exact h _ _
  · exact .done (show 400 < 500 by decide)

theorem yields_respondTo (request : HttpRequest) (t : Target) (endpoint : Endpoint) :
    Yields registry moments (respondTo registry request t endpoint) HttpResponse.Mild := by
  have hnot : Yields registry moments (.done (.bare 405)) HttpResponse.Mild := .done (show 405 < 500 by decide)
  cases endpoint with
  | health =>
    refine .done ?_
    split
    · exact show 200 < 500 by decide
    · exact show 405 < 500 by decide
  | custom path =>
    refine .done ?_
    split
    · exact show 200 < 500 by decide
    · exact show 405 < 500 by decide
  | graph =>
    simp only [respondTo]
    split
    · exact yields_respondGraph request
    · exact hnot
  | collection plural =>
    simp only [respondTo]
    split
    · exact yields_respondList plural _
    · split
      · exact yields_respondCreate plural request
      · exact hnot
  | item plural id =>
    simp only [respondTo]
    split
    · refine yields_withItem plural id fun plural id => yields_handled (serves_getRow plural id) fun _ => ?_
      exact show 200 < 500 by decide
    · split
      · refine yields_withItem plural id fun plural id => yields_handled (serves_deleteRow plural id) fun _ => ?_
        exact show 204 < 500 by decide
      · exact hnot

theorem yields_respond (custom : List String) (request : HttpRequest) :
    Yields registry moments (respond registry custom request) HttpResponse.Mild := by
  unfold respond
  simp only
  split
  · exact .done (show 404 < 500 by decide)
  · split
    · exact (yields_respondTo _ _ _).map fun _ h => h
    · exact yields_respondTo _ _ _

/-- **No request is answered with a status of 500 or above**, from any proper state. -/
theorem yields_request (request : Request) :
    Yields registry moments (request.program registry) HttpResponse.Mild := by
  cases request with
  | list plural params => exact yields_handled (serves_listRows plural params) fun _ => show 200 < 500 by decide
  | get plural raw => exact yields_handled (serves_getRow plural raw) fun _ => show 200 < 500 by decide
  | create plural data => exact yields_handled (serves_createRow plural data) fun _ => show 201 < 500 by decide
  | delete plural raw => exact yields_handled (serves_deleteRow plural raw) fun _ => show 204 < 500 by decide
  | query vars text operation => exact yields_graphResponse vars text operation
  | http custom request => exact yields_respond custom request

/-! ## Courses of deeds -/

/-- What is done to a database. -/
inductive Deed where
  /-- A request is answered. -/
  | request (request : Request)
  /-- A row is created under the next key. -/
  | create (entityType : String) (data : Json)
  /-- A row is created under a given key. -/
  | createAt (entityType : String) (pk : Int64) (data : Json)
  /-- A row is deleted. -/
  | delete (entityType : String) (pk : Int64)
  /-- Rows are loaded as they are. -/
  | load (entityType : String) (rows : List (Int64 × Json))
  /-- A registered model is backfilled. -/
  | backfillModel (dryRun : Bool) (batchSize : Nat) (entityType : String)
  /-- All models are backfilled, or those of one app. -/
  | backfillAll (dryRun : Bool) (batchSize : Nat) (app : Option String)
  /-- One row is backfilled. -/
  | backfillRow (dryRun : Bool) (app name : String) (pk : Int64)
  /-- A flag is set. -/
  | setFlag (name : String) (on : Bool)

namespace World

/-- The database after a deed. -/
def after (registry : Registry) (moments : Nat → Moment) (w : World) : Deed → World
  | .request r => (exec registry moments (r.program registry) w).2
  | .create ty data => (w.answer registry moments (.create ty data)).2
  | .createAt ty pk data => (w.answer registry moments (.createAt ty pk data)).2
  | .delete ty pk => (w.answer registry moments (.delete ty pk)).2
  | .load ty rows =>
    { w with memory := (w.memory.load (moments w.calls).now ty rows).2, calls := w.calls + 1 }
  | .backfillModel dryRun batchSize ty =>
    match registry.get? ty with
    | some model => (run registry moments (RowIdentity.backfillModel dryRun batchSize model) w).2
    | none => w
  | .backfillAll dryRun batchSize app =>
    (run registry moments (RowIdentity.backfillAll registry dryRun batchSize app) w).2
  | .backfillRow dryRun app name pk =>
    (run registry moments (RowIdentity.backfillRow registry dryRun app name pk) w).2
  | .setFlag name on => { w with flags := w.flags.set name on }

/-- The database after a course of deeds, from an empty one on. -/
def course (registry : Registry) (moments : Nat → Moment) (flag : Bool) (deeds : List Deed) : World :=
  deeds.foldl (after registry moments) (.empty flag)

end World

theorem Memory.Proper.insertEntries (h : m.Proper registry) {es : List MappingEntry}
    (hes : ∀ e ∈ es, Memory.tracks registry e.entityType = true) : (m.insertEntries es).2.Proper registry := by
  refine h.answer (t := .start) false (.insertEntries es) fun k hk => ?_
  obtain ⟨e, he, rfl⟩ := List.mem_map.1 hk
  exact hes e he

theorem proper_backfillBatch {ty : String} (htracks : Memory.tracks registry ty = true) (dryRun : Bool)
    (pks : List Int64) (w : World) (hw : w.memory.Proper registry) :
    (World.exec registry moments (backfillBatch ty dryRun pks).run w).2.memory.Proper registry := by
  rw [World.exec_backfillBatch]
  split
  · exact hw
  · split
    · exact hw
    · exact hw.insertEntries fun e he => (mem_newEntries he).1.symm ▸ htracks

theorem proper_backfillRow (dryRun : Bool) (app name : String) (pk : Int64) (w : World)
    (hw : w.memory.Proper registry) :
    (World.run registry moments (backfillRow registry dryRun app name pk) w).2.memory.Proper registry := by
  by_cases h : ∃ model, registry.byNames? app name = some model ∧ model.tracksPublicIds = true
  · obtain ⟨model, hmodel, htracks⟩ := h
    have hget := hmodel
    rw [Registry.byNames?] at hget
    have htracks' : Memory.tracks registry model.entityType = true :=
      (Memory.tracks_eq_true_iff _ _).2 ⟨model, (Registry.get?_entityType hget) ▸ hget, htracks⟩
    rw [World.run_backfillRow hmodel htracks]
    split
    · exact hw
    · split
      · exact hw
      · split
        · exact hw
        · show (w.memory.insertEntries (newEntries moments model.entityType (w.calls + 2) [pk])).2.Proper registry
          exact hw.insertEntries fun e he => (mem_newEntries he).1.symm ▸ htracks'
  · rw [World.memory_run_backfillRow_of_not]
    · exact hw
    · intro model hmodel
      exact Bool.eq_false_iff.2 fun htracks => h ⟨model, hmodel, htracks⟩

/-- **No deed breaks properness.** -/
theorem proper_after (hi : registry.Indexed) (w : World) (hw : w.memory.Proper registry) (deed : Deed) :
    (w.after registry moments deed).memory.Proper registry := by
  have hrefl : ∀ m : Memory, m.Proper registry → m.Proper registry := fun _ h => h
  have htrans : ∀ a b c : Memory, (a.Proper registry → b.Proper registry) → (b.Proper registry → c.Proper registry) →
      a.Proper registry → c.Proper registry := fun _ _ _ h h' ha => h' (h ha)
  cases deed with
  | request r => exact (yields_request r).proper w hw
  | create ty data => exact hw.answer w.flag (.create ty data) nofun
  | createAt ty pk data => exact hw.answer w.flag (.createAt ty pk data) nofun
  | delete ty pk => exact hw.answer (t := moments w.calls) w.flag (.delete ty pk) nofun
  | load ty rows =>
    refine hw.of_entries (hw.regular.load _ ty rows) fun u e he => .inl ?_
    exact Memory.mappings_load (moments w.calls).now w.memory ty rows ▸ he
  | backfillModel dryRun batchSize ty =>
    simp only [World.after]
    split
    next model hmodel =>
      have hmodel' : registry.get? model.entityType = some model := Registry.get?_entityType hmodel ▸ hmodel
      refine backfillModel_moves (R := fun m m' => m.Proper registry → m'.Proper registry) hrefl htrans
        (fun htracks => ?_) batchSize w hw
      exact proper_backfillBatch ((Memory.tracks_eq_true_iff _ _).2 ⟨model, hmodel', htracks⟩) dryRun
    next => exact hw
  | backfillAll dryRun batchSize app =>
    refine backfillAll_moves (R := fun m m' => m.Proper registry → m'.Proper registry) hrefl htrans
      (fun model hmem htracks => ?_) batchSize app w hw
    have hmodel := (hi.get?_eq_some_iff model.entityType model).2 ⟨hmem, rfl⟩
    exact proper_backfillBatch ((Memory.tracks_eq_true_iff _ _).2 ⟨model, hmodel, htracks⟩) dryRun
  | backfillRow dryRun app name pk => exact proper_backfillRow dryRun app name pk w hw
  | setFlag name on => exact hw

/-- **Every course of deeds leads to a proper state.** -/
theorem proper_course (hi : registry.Indexed) (moments : Nat → Moment) (flag : Bool) (deeds : List Deed) :
    (World.course registry moments flag deeds).memory.Proper registry := by
  have hfold : ∀ w : World, w.memory.Proper registry →
      (deeds.foldl (World.after registry moments) w).memory.Proper registry := by
    induction deeds with
    | nil => exact fun _ h => h
    | cons deed deeds ih => exact fun w h => ih _ (proper_after hi w h deed)
  exact hfold _ (.empty registry)

/-- The errors that a client causes are neither contradictions of the stored data nor failures of the store. -/
theorem IdError.code_of_isClientError {e : IdError} (h : e.isClientError = true) :
    e.code ∉ ["SCHEMA_INCONSISTENCY", "STORAGE_ERROR"] := by
  cases e with
  | invalidFormat | notFound | typeMismatch | unknownType =>
    rw [IdError.code]
    decide
  | _ => cases h

/-- **Errors of the server are unreachable.** After every course of requests, creations, deletions, loads, backfills and
flips of flags, every entry belongs to a registered model that tracks public ids. Whatever is requested then, as long
as each entry that has to be made finds an unused id among its draws, is answered with a status below 500, and no field
of a graph query fails but by the client's fault. And no global id and no path segment, of whatever model, meets a
contradiction of the stored data or a failure of the store. -/
theorem server_errors_unreachable (hreg : registry.Built) (moments : Nat → Moment) (flag : Bool) (deeds : List Deed)
    (w : World) (hw : w = World.course registry moments flag deeds) :
    (∀ u e, w.memory.mappings.entryById? u = some e →
      ∃ model, registry.get? e.entityType = some model ∧ model.tracksPublicIds = true) ∧
    (∀ request : Request, World.Provided registry moments (request.program registry) w →
      (World.exec registry moments (request.program registry) w).1.status < 500) ∧
    (∀ vars text operation, World.Provided registry moments (Graph.execute registry vars text operation) w →
      ∀ answer, (World.exec registry moments (Graph.execute registry vars text operation) w).1 = .ok answer →
        ∀ f ∈ answer.failures, f.error.isClientError = true) ∧
    (∀ id expected e, (World.run registry moments (resolveNode registry id expected) w).1 = .error e →
      e.isClientError = true ∧ e.code ∉ ["SCHEMA_INCONSISTENCY", "STORAGE_ERROR"]) ∧
    (∀ model raw e, (World.run registry moments (resolveLookup model raw) w).1 = .error e →
      e.isClientError = true ∧ e.code ∉ ["SCHEMA_INCONSISTENCY", "STORAGE_ERROR"]) := by
  have hproper : w.memory.Proper registry := hw ▸ proper_course hreg.indexed moments flag deeds
  refine ⟨fun u e he => ?_, fun request => ?_, fun vars text operation => ?_, fun id expected e he => ?_,
    fun model raw e he => ?_⟩
  · exact (Memory.tracks_eq_true_iff _ _).1 (hproper.tracked u e he)
  · exact (yields_request request).yields w hproper
  · exact (yields_execute vars text operation).yields w hproper
  · rw [(reads_resolveNode registry id expected).run_fst] at he
    have hclient := hproper.byClient_node w.flag id expected e he
    exact ⟨hclient, e.code_of_isClientError hclient⟩
  · rw [(reads_resolveLookup model raw).run_fst] at he
    have hclient := w.memory.byClient_lookup w.flag model raw e he
    exact ⟨hclient, e.code_of_isClientError hclient⟩

/-- Two widgets are loaded while the flag is off, and backfilled once it has been turned on; then one is deleted. -/
def Deed.loadAndBackfill : List Deed :=
  [.load "shop.widget" [(1, .null), (2, .null)], .setFlag publicIdFlag true, .backfillAll false 10 none,
    .request (.delete "widgets" "00000000-0000-4000-8000-000000000004")]

theorem server_errors_unreachable_widgets :
    (World.exec .widgets .counted ((Request.create "widgets" .null).program .widgets)
      (.course .widgets .counted false Deed.loadAndBackfill)).1.status < 500 := by
  have hprovided : World.Provided .widgets .counted ((Request.create "widgets" .null).program .widgets)
      (.course .widgets .counted false Deed.loadAndBackfill) :=
    Program.throughout_of_all (by decide +kernel)
  exact (server_errors_unreachable Registry.built_widgets .counted false Deed.loadAndBackfill _ rfl).2.1 _ hprovided

end RowIdentity
