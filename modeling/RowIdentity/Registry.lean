import RowIdentity.Error
import RowIdentity.Model

/-!
# The registry of models

Models in the order of their registration, with an index by graph type name and one by plural.
Entity types, graph type names and plurals are each unique.

* `Registry.offer` — a call that registers a model: its reply, and the registry it leaves
* `Registry.register` — the registry with one model more, or the first of its names that is taken
* `Registry.get?`, `byGraphName?`, `byPlural?`, `byNames?` — look-ups
-/

namespace RowIdentity

/-- The models of a program. The indexes hold entity types. -/
structure Registry where
  models : List Model
  graphIndex : List (String × String)
  pluralIndex : List (String × String)
deriving DecidableEq, Repr

namespace Registry

def empty : Registry := ⟨[], [], []⟩

def get? (r : Registry) (entityType : String) : Option Model :=
  r.models.find? (·.entityType = entityType)

def indexed? (index : List (String × String)) (name : String) : Option String :=
  (index.find? (·.1 = name)).map (·.2)

def byGraphName? (r : Registry) (name : String) : Option Model :=
  (indexed? r.graphIndex name).bind r.get?

def byPlural? (r : Registry) (plural : String) : Option Model :=
  (indexed? r.pluralIndex plural).bind r.get?

/-- The model of an app and a name, in any case. -/
def byNames? (r : Registry) (appLabel name : String) : Option Model :=
  r.get? (Lowercase.ofText appLabel ++ "." ++ Lowercase.ofText name)

/-- Refuses a name that is taken. -/
def refuseTaken (name : String) (taken : Bool) : ExceptT IdError (StateM Registry) Unit :=
  if taken then throw (.duplicateModel name) else pure ()

/-- Looks up the names of a model: entity type, graph type, plural. -/
def checkNames (m : Model) : ExceptT IdError (StateM Registry) Unit := do
  let r ← get
  refuseTaken m.entityType (r.get? m.entityType).isSome
  if let some n := m.graphName? then
    refuseTaken n (indexed? r.graphIndex n).isSome
  refuseTaken m.plural (indexed? r.pluralIndex m.plural).isSome

/-- Puts a model behind the others, and its names into the indexes. -/
def file (m : Model) : ExceptT IdError (StateM Registry) Unit := do
  if let some n := m.graphName? then
    modify fun r => { r with graphIndex := r.graphIndex ++ [(n, m.entityType)] }
  modify fun r => { r with pluralIndex := r.pluralIndex ++ [(m.plural, m.entityType)] }
  modify fun r => { r with models := r.models ++ [m] }

/-- Takes a model in. All its names are looked up first, as a failure takes nothing back. -/
def enter (m : Model) : ExceptT IdError (StateM Registry) Model := do
  checkNames m
  file m
  return m

/-- A call that registers a model: its reply, and the registry after it. -/
def offer (r : Registry) (m : Model) : IdResult Model × Registry := (enter m).run.run r

/-- The registry after a call that accepts a model. -/
def register (r : Registry) (m : Model) : IdResult Registry :=
  match r.offer m with
  | (.ok _, r') => .ok r'
  | (.error e, _) => .error e

def ofModels (ms : List Model) : IdResult Registry := ms.foldlM register empty

def entityTypes (r : Registry) : List String := r.models.map (·.entityType)

def size (r : Registry) : Nat := r.models.length

/-- The model of an entity type, which must be registered. -/
def model (r : Registry) (entityType : String) : IdResult Model :=
  match r.get? entityType with
  | some m => .ok m
  | none => .error (.unknownType entityType)

/-- The model of a graph type, which must be registered. -/
def graphModel (r : Registry) (name : String) : IdResult Model :=
  match r.byGraphName? name with
  | some m => .ok m
  | none => .error (.unknownType name)

end Registry

end RowIdentity
