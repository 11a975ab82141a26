import RowIdentity.Json.Reader

/-!
# The body of a graph request

A JSON object with a query, variables and the name of an operation, or an array of these three in
that order. The text is read from front to back, and what is wrong first decides whether it is
malformed JSON or JSON of another shape.

* `RequestBody` — the contents
* `BodyFault` — what is wrong with a text
* `RequestBody.parse` — reads a text
-/

namespace RowIdentity.Graph

structure RequestBody where
  query : String
  vars : List (String × Json)
  operation : Option String

/-- What is wrong with the text of a request. -/
inductive BodyFault where
  /-- It is no JSON. -/
  | malformed
  /-- It is JSON of another shape. -/
  | wrongShape
deriving DecidableEq, Repr

namespace RequestBody

open Json.Reader

/-- The parts of a request that were read so far. -/
structure Parts where
  query : Option String
  vars : Option (Option (List (String × Json)))
  operation : Option (Option String)

def Parts.empty : Parts := ⟨none, none, none⟩

/-- The request, if there is a query. -/
def Parts.finish (p : Parts) : Except BodyFault RequestBody :=
  match p.query with
  | some query => .ok ⟨query, (p.vars.bind id).getD [], p.operation.bind id⟩
  | none => .error .wrongShape

/-- A number of steps that suffices for a text. -/
def steps (rest : Rest) : Nat := 2 * rest.length + 2

/-- The fault of a value of another kind; one that is no JSON is malformed, but arrays and objects
are not looked into. -/
def otherKind (rest : Rest) : BodyFault :=
  match blanks rest with
  | '[' :: _ | '\x7b' :: _ => .wrongShape
  | rest => if (value .keep 1 1 rest).isSome then .wrongShape else .malformed

def text (rest : Rest) : Except BodyFault (String × Rest) :=
  match blanks rest with
  | '"' :: more =>
    match string .keep (steps more) more with
    | some r => .ok r
    | none => .error .malformed
  | rest => .error (otherKind rest)

/-- A value read by `read`, or null. -/
def orNull (read : Rest → Except BodyFault (α × Rest)) (rest : Rest) :
    Except BodyFault (Option α × Rest) :=
  match blanks rest with
  | 'n' :: more =>
    match word "ull" more with
    | some rest => .ok (none, rest)
    | none => .error .malformed
  | rest => (read rest).map fun (v, rest) => (some v, rest)

/-- An object with any fields. -/
def object (rest : Rest) : Except BodyFault (List (String × Json) × Rest) :=
  match blanks rest with
  | '\x7b' :: more =>
    match value .keep (steps more) (maxDepth - 1) ('\x7b' :: more) with
    | some (.obj fields, rest) => .ok (fields, rest)
    | _ => .error .malformed
  | rest => .error (otherKind rest)

/-- The value of a field behind its colon. A field may be given once; unknown ones are passed
over. -/
def fieldValue (p : Parts) (name : String) (rest : Rest) : Except BodyFault (Parts × Rest) :=
  let again := (name = "query" && p.query.isSome) || (name = "variables" && p.vars.isSome) ||
    (name = "operationName" && p.operation.isSome)
  if again then .error .wrongShape else
  match blanks rest with
  | ':' :: rest =>
    if name = "query" then do
      let (v, rest) ← text rest
      return ({ p with query := some v }, rest)
    else if name = "variables" then do
      let (v, rest) ← orNull object rest
      return ({ p with vars := some v }, rest)
    else if name = "operationName" then do
      let (v, rest) ← orNull text rest
      return ({ p with operation := some v }, rest)
    else match value .pass (steps rest) (steps rest) rest with
      | some (_, rest) => .ok (p, rest)
      | none => .error .malformed
  | _ => .error .malformed

/-- The fields of a request, up to the closing brace. -/
def fieldsFrom : Nat → Parts → Rest → Except BodyFault (RequestBody × Rest)
  | 0, _, _ => .error .malformed
  | fuel + 1, p, rest =>
    match blanks rest with
    | '"' :: more =>
      match string .keep (steps more) more with
      | none => .error .malformed
      | some (name, rest) => do
        let (p, rest) ← fieldValue p name rest
        match blanks rest with
        | ',' :: rest => fieldsFrom fuel p rest
        | '\x7d' :: rest => return (← p.finish, rest)
        | _ => .error .malformed
    | _ => .error .malformed

/-- What follows an item of an array: the end, or another item. -/
def nextItem (rest : Rest) : Except BodyFault (Option Rest × Rest) :=
  match blanks rest with
  | ']' :: rest => .ok (none, rest)
  | ',' :: rest =>
    match blanks rest with
    | ']' :: _ => .error .malformed
    | rest => .ok (some rest, rest)
  | _ => .error .malformed

/-- The items of a request, up to the closing bracket. -/
def itemsFrom (rest : Rest) : Except BodyFault (RequestBody × Rest) :=
  match blanks rest with
  | ']' :: _ => .error .wrongShape
  | rest => do
    let (query, rest) ← text rest
    match ← nextItem rest with
    | (none, rest) => return (⟨query, [], none⟩, rest)
    | (some rest, _) =>
      let (vars, rest) ← orNull object rest
      match ← nextItem rest with
      | (none, rest) => return (⟨query, vars.getD [], none⟩, rest)
      | (some rest, _) =>
        let (operation, rest) ← orNull text rest
        match blanks rest with
        | ']' :: rest => return (⟨query, vars.getD [], operation⟩, rest)
        | _ => .error .malformed

/-- Reads a request from a text. -/
def parse (s : String) : Except BodyFault RequestBody := do
  let (body, rest) ← match blanks s.toList with
    | '\x7b' :: rest =>
      match blanks rest with
      | '\x7d' :: _ => .error .wrongShape
      | rest => fieldsFrom (rest.length + 1) .empty rest
    | '[' :: rest => itemsFrom rest
    | rest => .error (otherKind rest)
  if (blanks rest).isEmpty then return body else .error .malformed

end RequestBody

end RowIdentity.Graph
