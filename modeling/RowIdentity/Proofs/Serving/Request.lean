import RowIdentity.Http.App
import RowIdentity.Proofs.Listing.Page
import RowIdentity.Proofs.Resolution.Identity
import RowIdentity.Proofs.Resolution.Lookup

/-!
# Requests and their responses

* `Request` — what clients may ask for: of each handler by itself, in graph queries, and over HTTP at any target;
* `World.exec_handled` — a handler answers with its result, or with its error;
* `World.run_createRow`, `run_getRow`, `run_deleteRow` — what the handlers of single rows come down to.
-/

namespace RowIdentity

variable {registry : Registry} {moments : Nat → Moment} {model : Model} {w : World}

/-- What a client may ask for. -/
inductive Request where
  | list (plural : String) (params : ListParams)
  | get (plural raw : String)
  | create (plural : String) (data : Json)
  | delete (plural raw : String)
  | query (vars : Graph.Variables) (text : String) (operation : Option String)
  /-- A request at any target of the application, with its own paths. -/
  | http (custom : List String) (request : HttpRequest)

/-- The answer to a graph query, failures and all. -/
def graphResponse (registry : Registry) (vars : Graph.Variables) (text : String) (operation : Option String) :
    Program Backend HttpResponse :=
  (Graph.execute registry vars text operation).bind fun
    | .ok answer => .done ⟨200, .json answer.toJson⟩
    | .error f => .done ⟨200, .json f.toJson⟩

def Request.program (registry : Registry) : Request → Program Backend HttpResponse
  | list plural params => handled (listRows registry plural params) fun page => ⟨200, .json page.toJson⟩
  | get plural raw => handled (getRow registry plural raw) fun view => ⟨200, .json view.toJson⟩
  | create plural data => handled (createRow registry plural data) fun view => ⟨201, .json view.toJson⟩
  | delete plural raw => handled (deleteRow registry plural raw) fun () => .bare 204
  | query vars text operation => graphResponse registry vars text operation
  | http custom request => respond registry custom request

namespace World

theorem exec_handled {α : Type} (a : Action α) (success : α → HttpResponse) (w : World) :
    exec registry moments (handled a success) w =
      match run registry moments a w with
      | (.ok x, w') => (success x, w')
      | (.error e, w') => (errorResponse e, w') := by
  unfold handled
  refine (exec_bind a.run _ w).trans ?_
  rw [run_eq]
  rcases exec registry moments a.run w with ⟨_ | _, w'⟩
  · rfl
  · rfl

/-! ## The handlers of single rows -/

theorem run_create (ty : String) (data : Json) (w : World) :
    run registry moments (liftM (Store.create ty data)) w =
      ((Memory.create registry (moments w.calls) w.memory ty data).1.mapError Fault.toError,
        { w with memory := (Memory.create registry (moments w.calls) w.memory ty data).2, calls := w.calls + 1 }) := rfl

theorem run_delete (ty : String) (pk : Int64) (w : World) :
    run registry moments (liftM (Store.delete ty pk)) w =
      (.ok (w.memory.delete ty pk).1, { w with memory := (w.memory.delete ty pk).2, calls := w.calls + 1 }) := rfl

theorem run_createRow (moments : Nat → Moment) (hi : registry.Indexed)
    (hmodel : registry.get? model.entityType = some model) (data : Json) (w : World) :
    run registry moments (createRow registry model.plural data) w =
      match Memory.create registry (moments w.calls) w.memory model.entityType data with
      | (.ok r, m') =>
        run registry moments (do return ⟨← externalId registry r, r⟩) { w with memory := m', calls := w.calls + 1 }
      | (.error f, m') => (.error f.toError, { w with memory := m', calls := w.calls + 1 }) := by
  unfold createRow
  rw [run_bind, run_collection hi hmodel]
  simp only
  rw [run_bind, run_create]
  rcases Memory.create registry (moments w.calls) w.memory model.entityType data with ⟨_ | r, m'⟩
  · rfl
  · rfl

theorem run_getRow (moments : Nat → Moment) (hi : registry.Indexed)
    (hmodel : registry.get? model.entityType = some model) (raw : String) (w : World) :
    ∃ n, run registry moments (getRow registry model.plural raw) w =
      match w.memory.lookup w.flag model raw with
      | .error e => (.error e, { w with calls := n })
      | .ok pk =>
        match w.memory.row? model.entityType pk with
        | none => (.error (.notFound model.entityType raw), { w with calls := n })
        | some r => run registry moments (do return ⟨← externalId registry r, r⟩) { w with calls := n } := by
  obtain ⟨n, hlookup⟩ := reads_resolveLookup model raw registry moments w
  unfold getRow
  simp only [run_bind, run_collection hi hmodel, hlookup]
  cases w.memory.lookup w.flag model raw with
  | error e => exact ⟨n, rfl⟩
  | ok pk =>
    refine ⟨n + 1, ?_⟩
    simp only [run_row]
    cases w.memory.row? model.entityType pk with
    | none => rfl
    | some r => exact run_bind _ _ _

theorem run_deleteRow (moments : Nat → Moment) (hi : registry.Indexed)
    (hmodel : registry.get? model.entityType = some model) (raw : String) (w : World) :
    ∃ n, run registry moments (deleteRow registry model.plural raw) w =
      match w.memory.lookup w.flag model raw with
      | .error e => (.error e, { w with calls := n })
      | .ok pk =>
        (if (w.memory.delete model.entityType pk).1 then .ok () else .error (.notFound model.entityType raw),
          { w with memory := (w.memory.delete model.entityType pk).2, calls := n }) := by
  obtain ⟨n, hlookup⟩ := reads_resolveLookup model raw registry moments w
  unfold deleteRow
  simp only [run_bind, run_collection hi hmodel, hlookup]
  cases w.memory.lookup w.flag model raw with
  | error e => exact ⟨n, rfl⟩
  | ok pk =>
    refine ⟨n + 1, ?_⟩
    simp only [run_delete]
    cases (w.memory.delete model.entityType pk).1 with
    | false => rfl
    | true => rfl

end World

end RowIdentity
