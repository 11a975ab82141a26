import RowIdentity.Flags
import RowIdentity.Graph.Execution
import RowIdentity.Graph.RequestBody
import RowIdentity.Http.Handler

/-!
# The web application

* `Endpoint` — what a path leads to
* `route?` — the endpoint of a path; fixed paths come before collections
* `respond` — the response to a request
* `AppParts` — the parts an application is put together from
-/

namespace RowIdentity

/-- What a path leads to. Names are still percent-encoded. -/
inductive Endpoint where
  | health
  | graph
  | custom (path : String)
  | collection (plural : String)
  | item (plural id : String)
deriving DecidableEq, Repr

/-- The endpoint of a path. Segments are not empty; there is no trailing slash. -/
def route? (custom : List String) (t : Target) : Option Endpoint :=
  if t.path = "/health" || t.path = "/healthz" then some .health
  else if t.path = "/graphql" then some .graph
  else if custom.contains t.path then some (.custom t.path)
  else match t.segments with
    | ["", plural] => if plural = "" then none else some (.collection plural)
    | ["", plural, id] => if plural = "" || id = "" then none else some (.item plural id)
    | _ => none

/-- The answer to a request about the health of the service. -/
def healthReport : Json := .obj [("status", .str "ok"), ("service", .str "baseapp-ids")]

def errorResponse (e : IdError) : HttpResponse := ⟨e.status, .json e.toJson⟩

/-- The response of a handler: its result under a status, or its error. -/
def handled (a : Action α) (success : α → HttpResponse) : Program Backend HttpResponse :=
  a.run.bind fun
    | .ok v => .done (success v)
    | .error e => .done (errorResponse e)

/-- Whether a request may carry a JSON body. -/
def HttpRequest.announcesJson (r : HttpRequest) : Bool := r.contentType.any isJsonType

def respondGraph (registry : Registry) (r : HttpRequest) : Program Backend HttpResponse :=
  if !r.announcesJson then .done (.refusal 415) else
  match Graph.RequestBody.parse r.body with
  | .error .malformed => .done (.refusal 400)
  | .error .wrongShape => .done (.refusal 422)
  | .ok body =>
    (Graph.execute registry body.vars body.query body.operation).bind fun
      | .ok answer => .done ⟨200, .json answer.toJson⟩
      | .error f => .done ⟨200, .json f.toJson⟩

def respondList (registry : Registry) (plural query : String) : Program Backend HttpResponse :=
  match Percent.segment? plural, ListParams.ofPairs? (Percent.formPairs query.toList) with
  | some plural, some params =>
    handled (listRows registry plural params) fun page => ⟨200, .json page.toJson⟩
  | _, _ => .done (.refusal 400)

def respondCreate (registry : Registry) (plural : String) (r : HttpRequest) :
    Program Backend HttpResponse :=
  match Percent.segment? plural with
  | none => .done (.refusal 400)
  | some plural =>
    if !r.announcesJson then .done (.refusal 415) else
    match Json.parse? r.body with
    | none => .done (.refusal 400)
    | some data =>
      handled (createRow registry plural data) fun view => ⟨201, .json view.toJson⟩

/-- Calls a handler with the decoded names of a row. -/
def withItem (plural id : String) (handler : String → String → Program Backend HttpResponse) :
    Program Backend HttpResponse :=
  match Percent.segment? plural, Percent.segment? id with
  | some plural, some id => handler plural id
  | _, _ => .done (.refusal 400)

def respondTo (registry : Registry) (r : HttpRequest) (t : Target) :
    Endpoint → Program Backend HttpResponse
  | .health => .done (if r.method = "GET" then ⟨200, .json healthReport⟩ else .bare 405)
  | .custom path =>
    .done (if r.method = "GET" then ⟨200, .json (.str ("custom " ++ path))⟩ else .bare 405)
  | .graph => if r.method = "POST" then respondGraph registry r else .done (.bare 405)
  | .collection plural =>
    if r.method = "GET" then respondList registry plural t.query
    else if r.method = "POST" then respondCreate registry plural r
    else .done (.bare 405)
  | .item plural id =>
    if r.method = "GET" then withItem plural id fun plural id =>
      handled (getRow registry plural id) fun view => ⟨200, .json view.toJson⟩
    else if r.method = "DELETE" then withItem plural id fun plural id =>
      handled (deleteRow registry plural id) fun () => .bare 204
    else .done (.bare 405)

/-- The response to a request. HEAD is answered like GET, without a body. -/
def respond (registry : Registry) (custom : List String) (r : HttpRequest) :
    Program Backend HttpResponse :=
  let t := Target.parse r.target
  match route? custom t with
  | none => .done (.bare 404)
  | some endpoint =>
    if r.method = "HEAD" then
      (respondTo registry { r with method := "GET" } t endpoint).bind fun a =>
        .done (.bare a.status)
    else respondTo registry r t endpoint

/-! ## Putting an application together -/

/-- The parts an application is put together from, as far as they are given. -/
structure AppParts where
  registry : Option Registry
  hasStore : Bool
  flags : Option FixedFlags
  custom : List String

structure App where
  registry : Registry
  flags : FixedFlags

namespace AppParts

def none : AppParts := ⟨Option.none, false, Option.none, []⟩

/-- Takes the parts of an application; what was taken is no longer there. Flags are off unless
given. -/
def take (p : AppParts) : Except Fault App × AppParts :=
  match p.registry with
  | Option.none => (.error (.plain "ModelRegistry is required. Call .with_registry()"), p)
  | some registry =>
    if p.hasStore then
      (.ok ⟨registry, p.flags.getD .empty⟩, { none with custom := p.custom })
    else
      (.error (.plain "A store is required. Call .with_store()"),
        { p with registry := Option.none })

end AppParts

end RowIdentity
