import RowIdentity.Json.Basic
import RowIdentity.Text.Lowercase

/-!
# Models

What is known of a kind of row: its names, its kind of key, the schemes it is eligible for and the
type that shows it to graph clients.

* `Model` — the description; `Model.named` starts one, the `with…` functions add to it
* `Model.tracksPublicIds` — whether its rows have mapping entries
-/

namespace RowIdentity

/-- How the primary key of a row comes about. -/
inductive KeyKind where
  /-- The store counts. -/
  | autoIncrement
  /-- The application chooses. -/
  | explicit
  /-- The key is no number. -/
  | uuid
deriving DecidableEq, Repr

/-- The schemes a model may declare itself eligible for. -/
inductive Eligibility where
  | publicId
  | pk
deriving DecidableEq, Repr

/-- The interface of types whose objects can be fetched by a global id. -/
def nodeInterface : String := "Node"

/-- A type that shows a model to graph clients. -/
structure GraphType where
  name : String
  interfaces : List String
deriving DecidableEq, Repr

namespace GraphType

def node (name : String) : GraphType := ⟨name, [nodeInterface]⟩

def implements (t : GraphType) (interface : String) : Bool := t.interfaces.contains interface

/-- Whether objects of the type can be fetched by a global id. -/
def implementsNode (t : GraphType) : Bool := t.implements nodeInterface

end GraphType

/-- The description of a model. -/
structure Model where
  appLabel : String
  name : String
  entityType : String
  plural : String
  table : String
  keyKind : KeyKind
  eligibility : List Eligibility
  graph : Option GraphType
deriving DecidableEq, Repr

namespace Model

/-- A model under its lowercased names, with a counted key and no eligibility. -/
def named (appLabel name : String) : Model :=
  let app := Lowercase.ofText appLabel
  let name := Lowercase.ofText name
  { appLabel := app
    name
    entityType := app ++ "." ++ name
    plural := name ++ "s"
    table := app ++ "_" ++ name
    keyKind := .autoIncrement
    eligibility := []
    graph := none }

/-- Adds an eligibility, once. -/
def withEligibility (m : Model) (e : Eligibility) : Model :=
  if m.eligibility.contains e then m else { m with eligibility := m.eligibility ++ [e] }

def withKeyKind (m : Model) (k : KeyKind) : Model := { m with keyKind := k }

def withPlural (m : Model) (plural : String) : Model := { m with plural }

def withTable (m : Model) (table : String) : Model := { m with table }

def withGraph (m : Model) (t : GraphType) : Model := { m with graph := some t }

def graphName? (m : Model) : Option String := m.graph.map (·.name)

def isPublicIdEligible (m : Model) : Bool := m.eligibility.contains .publicId

def isPkEligible (m : Model) : Bool := m.eligibility.contains .pk

/-- Whether the store counts the keys. -/
def hasAutoIncrement (m : Model) : Bool := m.keyKind == .autoIncrement

/-- Whether the rows of the model have mapping entries, whatever the flag says. -/
def tracksPublicIds (m : Model) : Bool := m.isPublicIdEligible && m.hasAutoIncrement

end Model

end RowIdentity
