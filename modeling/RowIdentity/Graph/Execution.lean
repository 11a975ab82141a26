import RowIdentity.Graph.Document
import RowIdentity.Graph.Reader
import RowIdentity.Resolution

/-!
# Executing query documents

A document looks up nodes by their global ids: `node(id:)` takes an id of any type, and every
model's graph type has a field of its own, named like the type with a small first letter, which
takes ids of that type only.

* `Answer` — the data and the failures of an operation; a field that fails is null in the data
* `DocumentFault` — why a document was not executed at all
* `execute` — runs the operation of a document that is asked for
-/

namespace RowIdentity.Graph

/-- Why a document was not executed. -/
inductive DocumentFault where
  | malformed
  | unknownOperation (name : String)
  | noOperation
  | notAQuery
deriving DecidableEq, Repr

def DocumentFault.message : DocumentFault → String
  | malformed => "Failed to parse query"
  | unknownOperation name => "Unknown operation named \"" ++ name ++ "\""
  | noOperation => "No query operation found"
  | notAQuery => "Only queries are supported"

/-- A root field that failed, under its name in the answer. -/
structure FieldFailure where
  key : String
  error : IdError
deriving DecidableEq, Repr

/-- The outcome of an operation. -/
structure Answer where
  data : List (String × Json)
  failures : List FieldFailure

def FieldFailure.toJson (f : FieldFailure) : Json :=
  .obj [("message", .str f.error.message), ("path", .arr [.str f.key]),
    ("extensions", .obj [("code", .str f.error.code)])]

/-- An answer as a JSON object; it lists errors only if there are any. -/
def Answer.toJson (a : Answer) : Json :=
  .obj (("data", .obj a.data) ::
    if a.failures.isEmpty then [] else [("errors", .arr (a.failures.map FieldFailure.toJson))])

def DocumentFault.toJson (f : DocumentFault) : Json :=
  .obj [("data", .null), ("errors", .arr [.obj [("message", .str f.message)]])]

/-! ## Fields -/

/-- A name with a small first letter. -/
def lowerFirst (name : String) : String :=
  match name.toList with
  | c :: rest => String.ofList (Lowercase.ofChar c ++ rest)
  | [] => ""

abbrev Variables := List (String × Json)

def Field.argument? (f : Field) (name : String) : Option Argument :=
  (f.arguments.find? (·.1 = name)).map (·.2)

/-- The id that a field is given, as text. -/
def idArgument (vars : Variables) (f : Field) : IdResult String :=
  match f.argument? "id" with
  | none => .error (.invalidFormat f.name "missing argument 'id'")
  | some (.str s) => .ok s
  | some (.int n) => .ok (Decimal.text n)
  | some (.variable name) =>
    match Json.findField? vars name with
    | some (.str s) => .ok s
    | some (.num (.int n)) => .ok (Decimal.text n)
    | some (.num (.real x)) => .ok (String.ofList x.text)
    | _ => .error (.invalidFormat ("$" ++ name) "variable is missing or not an id")
  | some .other => .error (.invalidFormat f.name "argument 'id' must be an ID")

/-- The graph type whose field has the given name; the first registered one. -/
def rootType? (registry : Registry) (name : String) : Option String :=
  (registry.models.filterMap Model.graphName?).find? fun t => lowerFirst t = name

/-- The value of a field of an object. -/
def leafValue (registry : Registry) (model : Model) (row : Row) (leaf : Leaf) : Action Json :=
  if leaf.name = "id" then return .str (← globalId registry row)
  else if leaf.name = "pk" then return .int row.pk.toInt
  else if leaf.name = "__typename" then return Json.strOrNull model.graphName?
  else return (row.data.field? leaf.name).getD .null

/-- The fields selected of an object; a later one replaces an earlier one of the same name. -/
def objectFields (registry : Registry) (model : Model) (row : Row) (leaves : List Leaf) :
    Action (List (String × Json)) :=
  leaves.foldlM (fun done leaf => do
    let v ← leafValue registry model row leaf
    return Json.putField done leaf.key v) []

/-- The row that a root field asks for. -/
def rootRow (registry : Registry) (f : Field) (id : String) : Action (Option Row) :=
  if f.name = "node" then resolveNode registry id none
  else match rootType? registry f.name with
    | some typeName => resolveNode registry id (some typeName)
    | none => throw (.invalidFormat f.name "unknown query field")

/-- The value of a root field. -/
def rootValue (registry : Registry) (vars : Variables) (f : Field) : Action Json := do
  let id ← idArgument vars f
  match ← rootRow registry f id with
  | none => return .null
  | some row =>
    let model ← registry.model row.entityType
    return .obj (← objectFields registry model row f.selected)

/-! ## Operations -/

/-- Adds the outcome of a root field to an answer. -/
def Answer.add (a : Answer) (key : String) : IdResult Json → Answer
  | .ok v => { a with data := Json.putField a.data key v }
  | .error e => ⟨Json.putField a.data key .null, a.failures ++ [⟨key, e⟩]⟩

/-- Executes root fields one after another. -/
def executeFields (registry : Registry) (vars : Variables) (fields : List Field) :
    Program Backend Answer :=
  fields.foldlM (fun a f => do
    let outcome ← (rootValue registry vars f).run
    return a.add f.key outcome) ⟨[], []⟩

/-- The operation of a document that is asked for: by its name, or the first one. -/
def chooseOperation (document : Document) (name : Option String) :
    Except DocumentFault Operation :=
  match name with
  | some name =>
    match document.find? (·.name = some name) with
    | some op => .ok op
    | none => .error (.unknownOperation name)
  | none =>
    match document with
    | op :: _ => .ok op
    | [] => .error .noOperation

/-- The root fields of a document that are to be executed. -/
def plan (text : String) (operation : Option String) : Except DocumentFault (List Field) :=
  match Document.parse? text with
  | none => .error .malformed
  | some document => do
    let op ← chooseOperation document operation
    if op.kind = .query then .ok op.fields else .error .notAQuery

/-- Runs the operation of a document that is asked for. -/
def execute (registry : Registry) (vars : Variables) (text : String)
    (operation : Option String) : Program Backend (Except DocumentFault Answer) :=
  match plan text operation with
  | .error f => .done (.error f)
  | .ok fields => do return .ok (← executeFields registry vars fields)

end RowIdentity.Graph
