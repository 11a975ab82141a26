import RowIdentity.Json.Basic

/-!
# Values of a settings document

Settings can be written in more than one notation. A notation says which of its values are records,
lists, texts and so on; what a setting means is the same in all of them.

* `SettingValue` — how the values of a notation are read
* `SettingValue.required?`, `withDefault?`, `optional?`, `list?` — reading the fields of a record
-/

namespace RowIdentity

/-- How the values of a notation are read. -/
class SettingValue (α : Type) where
  /-- The known fields of a record, each at most once. -/
  record? : List String → α → Option (List (String × α))
  /-- The items of a list. -/
  items? : α → Option (List α)
  /-- A text. -/
  text? : α → Option String
  /-- A truth value. -/
  bool? : α → Option Bool
  /-- A number that fits in an unsigned word. -/
  size? : α → Option Nat
  /-- One of several names. -/
  choice? : α → Option String
  /-- Whether the value stands for none where a value is optional. -/
  isNone : α → Bool

namespace SettingValue

variable {α β : Type} [SettingValue α]

/-- Null or a value of the given kind. -/
def optional? (read : α → Option β) (v : α) : Option (Option β) :=
  if isNone v then some none else (read v).map some

/-- A list of values of the given kind. -/
def list? (read : α → Option β) (v : α) : Option (List β) := do (← items? v).mapM read

/-- One of several named values. -/
def named? (read : String → Option β) (v : α) : Option β := (choice? v).bind read

/-- A field that must be there. -/
def required? (fields : List (String × α)) (name : String) (read : α → Option β) : Option β :=
  (fields.find? (·.1 = name)).bind fun f => read f.2

/-- A field with a default. -/
def withDefault? (fields : List (String × α)) (name : String) (read : α → Option β) (default : β) :
    Option β :=
  match fields.find? (·.1 = name) with
  | some f => read f.2
  | none => some default

end SettingValue

/-- The name of a choice in JSON: a string, or an object with that single key and null. -/
def Json.choice? : Json → Option String
  | .str s => some s
  | .obj [(name, .null)] => some name
  | _ => none

instance : SettingValue Json where
  record? := Json.record?
  items? := Json.items?
  text? := Json.str?
  bool? := Json.bool?
  size? := Json.nat?
  choice? := Json.choice?
  isNone v := v == .null

end RowIdentity
