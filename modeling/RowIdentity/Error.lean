import RowIdentity.Json.Basic
import RowIdentity.Text.Decimal

/-!
# Errors

* `IdError` — one constructor for each cause
* `IdError.message`, `IdError.code`, `IdError.status` — how it is worded, named and answered
* `IdError.details` — the values a client may act on
* `BatchFailure` — a batch of the backfill that could not be written
* `Fault` — what a store call fails with: a text or an error, under contexts
* `Fault.toError` — the error a fault comes down to
-/

namespace RowIdentity

/-- A batch of rows whose entries could not be written; the job goes on without them. -/
structure BatchFailure where
  model : String
  firstKey : Int64
  lastKey : Int64
  keys : List Int64
  cause : String
deriving DecidableEq, Repr

/-- The causes of a failure. -/
inductive IdError where
  /-- The text is no identifier under any scheme. -/
  | invalidFormat (value reason : String)
  /-- A well-formed identifier has no row. -/
  | notFound (entityType id : String)
  /-- The row is not of the type that was asked for. -/
  | typeMismatch (expected actual : String)
  /-- A mapping entry belongs to a model without the scheme. -/
  | schemaInconsistency (entityType scheme text : String)
  /-- No model is registered under the name. -/
  | unknownType (name : String)
  /-- The store cannot be reached. -/
  | connection (backend text : String)
  /-- The store could not answer. -/
  | query (backend text : String)
  /-- The store could not finish a unit of work. -/
  | transaction (text : String)
  /-- The stored data contradict each other. -/
  | integrity (text : String)
  /-- The configuration cannot be read as such. -/
  | configSyntax (file : Option String) (text : String)
  /-- A configured value is out of bounds. -/
  | configValue (field value text : String)
  /-- There is no configuration file. -/
  | configMissing (path : String)
  /-- The configuration file cannot be opened. -/
  | configIo (text : String)
  /-- Two models share a name that must be unique. -/
  | duplicateModel (name : String)
  /-- A batch of the backfill failed. -/
  | batchFailed (failure : BatchFailure)
  /-- The model has no public ids. -/
  | notEligible (model : String)
  /-- This should not happen. -/
  | internal (text : String)
deriving DecidableEq, Repr

def BatchFailure.message (f : BatchFailure) : String :=
  "Backfill batch " ++ Decimal.text f.firstKey.toInt ++ "..=" ++ Decimal.text f.lastKey.toInt ++
    " of " ++ f.model ++ " failed (" ++ Decimal.text f.keys.length ++ " rows): " ++ f.cause

namespace IdError

def message : IdError → String
  | invalidFormat value reason => "Invalid identifier '" ++ value ++ "': " ++ reason
  | notFound entityType id => entityType ++ " with id '" ++ id ++ "' not found"
  | typeMismatch expected actual => "Must receive a " ++ expected ++ " id, got " ++ actual
  | schemaInconsistency entityType scheme text =>
    "Schema inconsistency for " ++ entityType ++ " under the " ++ scheme ++ " scheme: " ++ text
  | unknownType name => "Unknown type: " ++ name
  | connection backend text => "Failed to connect to " ++ backend ++ ": " ++ text
  | query backend text => backend ++ " query error: " ++ text
  | transaction text => "Transaction error: " ++ text
  | integrity text => "Data integrity error: " ++ text
  | configSyntax (some file) text => "Failed to parse config file '" ++ file ++ "': " ++ text
  | configSyntax none text => "Failed to parse config: " ++ text
  | configValue field value text =>
    "Invalid value '" ++ value ++ "' for field '" ++ field ++ "': " ++ text
  | configMissing path => "Configuration file not found: " ++ path
  | configIo text => "IO error: " ++ text
  | duplicateModel name => "Model '" ++ name ++ "' is registered twice"
  | batchFailed failure => failure.message
  | notEligible model => "Model " ++ model ++ " is not eligible for public ids"
  | internal text => "Internal error: " ++ text

/-- The name of an error for programs. -/
def code : IdError → String
  | invalidFormat .. => "INVALID_IDENTIFIER_FORMAT"
  | notFound .. => "NOT_FOUND"
  | typeMismatch .. => "TYPE_MISMATCH"
  | schemaInconsistency .. => "SCHEMA_INCONSISTENCY"
  | unknownType .. => "UNKNOWN_TYPE"
  | connection .. | query .. | transaction .. | integrity .. => "STORAGE_ERROR"
  | configSyntax .. | configValue .. | configMissing .. | configIo .. | duplicateModel .. =>
    "CONFIG_ERROR"
  | batchFailed .. | notEligible .. => "BACKFILL_ERROR"
  | internal .. => "INTERNAL_ERROR"

/-- The status an HTTP client gets: 400 or 404 for what it caused itself, 500 for all else. -/
def status : IdError → Nat
  | invalidFormat .. | typeMismatch .. | unknownType .. => 400
  | notFound .. => 404
  | _ => 500

def isClientError (e : IdError) : Bool := 400 ≤ e.status && e.status < 500

/-- The wording of the cause behind an error; an internal error has none. -/
def source? : IdError → Option String
  | internal _ => none
  | e => some e.message

def chain (e : IdError) : String :=
  match e.source? with
  | some s => e.message ++ ": " ++ s
  | none => e.message

def details : IdError → Option Json
  | notFound entityType id => some (.obj [("entity_type", .str entityType), ("id", .str id)])
  | typeMismatch expected actual =>
    some (.obj [("expected", .str expected), ("actual", .str actual)])
  | invalidFormat value _ => some (.obj [("value", .str value)])
  | _ => none

def toJson (e : IdError) : Json :=
  .obj ([("code", .str e.code), ("message", .str e.message)] ++
    match e.details with
    | some d => [("details", d)]
    | none => [])

end IdError

/-- What a store call fails with. -/
inductive Fault where
  | plain (text : String)
  | known (error : IdError)
  | within (context : String) (fault : Fault)
deriving DecidableEq, Repr

namespace Fault

/-- The contexts and the text, outermost first. -/
def chain : Fault → String
  | plain text => text
  | known e => e.chain
  | within context fault => context ++ ": " ++ fault.chain

/-- The error inside, under whatever contexts. -/
def error? : Fault → Option IdError
  | plain _ => none
  | known e => some e
  | within _ fault => fault.error?

/-- An error that came through a store stays what it was; anything else is a failure of the
store. -/
def toError (f : Fault) : IdError :=
  match f.error? with
  | some e => e
  | none => .query "store" f.chain

end Fault

abbrev IdResult := Except IdError

end RowIdentity
