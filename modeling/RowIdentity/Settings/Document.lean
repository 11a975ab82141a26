import RowIdentity.Settings.Basic
import RowIdentity.Yaml.Node

/-!
# Settings documents

Settings are written in YAML. Plain scalars stand for truth values, numbers and null; any scalar
stands for a text, and an empty one for a record or a list without entries.

* `Settings.ofText` — the settings of a document
* `SettingsFile` — what is found under the path of a settings file
* `Settings.ofFile` — the settings of a file
-/

namespace RowIdentity

open Yaml

/-! ## Scalars -/

/-- The spellings of null. -/
def nullWords : List String := ["null", "Null", "NULL", "~"]

/-- The tag of a type of the core schema. -/
def coreTag (name : String) : String := "tag:yaml.org,2002:" ++ name

/-- A scalar that may stand for a value of a core type: a plain one, or a literal block under the
tag of that type. -/
def bareText? (type : String) : Node → Option String
  | .scalar s .plain _ => some s
  | .scalar s .literal tag => if tag = some (coreTag type) then some s else none
  | _ => none

/-- A truth value, in small letters, capitalised or in capitals. -/
def truth? (s : String) : Option Bool :=
  if s ∈ ["true", "True", "TRUE"] then some true
  else if s ∈ ["false", "False", "FALSE"] then some false
  else none

/-- The value of digits of a base. -/
def digits? (base : Nat) (cs : List Char) : Option Nat :=
  if cs.isEmpty then none
  else cs.foldlM (fun n c => do
    let d ← Hexadecimal.digitValue? c
    if d.val < base then some (base * n + d.val) else none) 0

/-- A number: decimal without needless zeros, or with `0x`, `0o` or `0b` before it. A plus sign may
stand before all of it. -/
def count? (s : String) : Option Nat := do
  let cs := s.toList
  let cs := if cs.head? = some '+' then cs.tail else cs
  let n ← match cs with
    | '0' :: 'x' :: ds => digits? 16 ds
    | '0' :: 'o' :: ds => digits? 8 ds
    | '0' :: 'b' :: ds => digits? 2 ds
    | '0' :: _ :: _ => none
    | ds => digits? 10 ds
  if n < UInt64.size then some n else none

/-- Whether a node stands for null. -/
def isNullNode : Node → Bool
  | .scalar s .plain none => s = "" || nullWords.contains s
  | .scalar s .plain (some tag) => tag = coreTag "null" && nullWords.contains s
  | _ => false

/-- The name of a choice: a scalar, or a local tag before nothing. -/
def choiceOfNode? : Node → Option String
  | .scalar s style (some tag) =>
    match tag.toList with
    | ['!'] => none
    | '!' :: name =>
      if style = .plain && (s = "" || nullWords.contains s) then some (String.ofList name) else none
    | _ => some s
  | .scalar s _ none => some s
  | _ => none

def textOfNode? : Node → Option String
  | .scalar s _ _ => some s
  | _ => none

/-! ## Collections -/

/-- The pairs of a mapping; nothing at all is one without pairs. -/
def pairs? : Node → Option (List (Node × Node))
  | .mapping pairs => some pairs
  | .scalar "" .plain _ => some []
  | _ => none

/-- The items of a sequence; nothing at all is one without items. -/
def itemsOfNode? : Node → Option (List Node)
  | .sequence items => some items
  | .scalar "" .plain _ => some []
  | _ => none

/-- The known fields of a mapping, whose keys must be scalars. None of them may come twice. -/
def fieldsOfNode? (names : List String) (n : Node) : Option (List (String × Node)) := do
  let fields ← (← pairs? n).mapM fun (k, v) => (textOfNode? k).map (·, v)
  let known := fields.filter fun f => names.contains f.1
  if (known.map (·.1)).Nodup then some known else none

instance : SettingValue Node where
  record? := fieldsOfNode?
  items? := itemsOfNode?
  text? := textOfNode?
  bool? n := (bareText? "bool" n).bind truth?
  size? n := (bareText? "int" n).bind count?
  choice? := choiceOfNode?
  isNone := isNullNode

/-! ## Documents -/

namespace Settings

/-- The settings of a document that stands in a file, or in none. -/
def parse (file : Option String) (text : String) : IdResult Settings :=
  match (document? text.toList).bind fun n => read? n with
  | some s => s.validated
  | none => .error (.configSyntax file "not a settings document")

def ofText (text : String) : IdResult Settings := parse none text

end Settings

/-- What is found under the path of a settings file. -/
inductive SettingsFile where
  | missing
  /-- Something is there that cannot be read as text. -/
  | unreadable (reason : String)
  | text (content : String)
deriving DecidableEq, Repr

def Settings.ofFile (path : String) : SettingsFile → IdResult Settings
  | .missing => .error (.configMissing path)
  | .unreadable reason => .error (.configIo reason)
  | .text content => parse (some path) content

end RowIdentity
