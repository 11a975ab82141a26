import RowIdentity.Text.Binary64

/-!
# JSON values

* `Json` — the values; the fields of an object keep the order in which they were first put
* `Json.put`, `Json.field?` — writing and reading a field; a later write replaces an earlier one
* `Json.int?`, `Json.nat?`, … — reading a value of one kind
-/

namespace RowIdentity

/-- A JSON number: a 64-bit integer, or a double. -/
inductive JsonNumber where
  | int (n : Int)
  | real (x : Binary64)
deriving DecidableEq, Repr

/-- A JSON value. -/
inductive Json where
  | null
  | bool (b : Bool)
  | num (n : JsonNumber)
  | str (s : String)
  | arr (items : List Json)
  | obj (fields : List (String × Json))
deriving BEq, Repr, Inhabited

namespace Json

def int (n : Int) : Json := .num (.int n)

def nat (n : Nat) : Json := .num (.int n)

def strs (xs : List String) : Json := .arr (xs.map .str)

def strOrNull : Option String → Json
  | some s => .str s
  | none => .null

/-- Writes a field: in place of the one of that name, or behind the others. -/
def putField (fields : List (String × Json)) (name : String) (v : Json) : List (String × Json) :=
  match fields with
  | [] => [(name, v)]
  | (k, w) :: rest => if k = name then (k, v) :: rest else (k, w) :: putField rest name v

/-- Reads a field of a list of fields. -/
def findField? (fields : List (String × Json)) (name : String) : Option Json :=
  (fields.find? (·.1 = name)).map (·.2)

/-- Reads a field of an object; other values have none. -/
def field? : Json → String → Option Json
  | .obj fields, name => findField? fields name
  | _, _ => none

def fields? : Json → Option (List (String × Json))
  | .obj fields => some fields
  | _ => none

def items? : Json → Option (List Json)
  | .arr items => some items
  | _ => none

def str? : Json → Option String
  | .str s => some s
  | _ => none

def bool? : Json → Option Bool
  | .bool b => some b
  | _ => none

def int? : Json → Option Int
  | .num (.int n) => some n
  | _ => none

/-- An integer that fits in an unsigned word. -/
def nat? (j : Json) : Option Nat := do
  let n ← j.int?
  if 0 ≤ n && n < UInt64.size then some n.toNat else none

def strs? (j : Json) : Option (List String) := do (← j.items?).mapM str?

/-- Null or a value of the given kind. -/
def optional? (read : Json → Option α) : Json → Option (Option α)
  | .null => some none
  | j => (read j).map some

/-- The fields of a record: an object names them, an array gives them in order. -/
def record? (names : List String) : Json → Option (List (String × Json))
  | .obj fields => some fields
  | .arr items => if items.length ≤ names.length then some (names.zip items) else none
  | _ => none

/-- A field that must be there. -/
def required? (fields : List (String × Json)) (name : String) (read : Json → Option α) :
    Option α := (findField? fields name).bind read

/-- A field with a default. -/
def withDefault? (fields : List (String × Json)) (name : String) (read : Json → Option α)
    (default : α) : Option α :=
  match findField? fields name with
  | some j => read j
  | none => some default

end Json

end RowIdentity
