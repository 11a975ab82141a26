/-!
# Query documents

The parts of a graph query that its execution looks at; types, directives and default values are
read and dropped.

* `Argument` — the value of an argument
* `Field`, `Selection` — what is selected
* `Operation`, `Definition` — what a document consists of
-/

namespace RowIdentity.Graph

inductive Argument where
  | str (s : String)
  | int (n : Int)
  | variable (name : String)
  /-- A value that is no id: a float, a boolean, null, an enumeration, a list or an object. -/
  | other
deriving DecidableEq, Repr

/-- A field of an object, with a name of its own in the answer if there is an alias. -/
structure Leaf where
  alias? : Option String
  name : String
deriving DecidableEq, Repr

/-- A field of the query, with its arguments and the fields selected of the object. Fragments
among the selections are not followed. -/
structure Field where
  alias? : Option String
  name : String
  arguments : List (String × Argument)
  selected : List Leaf
deriving DecidableEq, Repr

/-- The name of a field in the answer. -/
def Field.key (f : Field) : String := f.alias?.getD f.name

def Leaf.key (f : Leaf) : String := f.alias?.getD f.name

inductive OperationKind where
  | query
  | mutation
  | subscription
deriving DecidableEq, Repr

/-- An operation of a document. -/
structure Operation where
  kind : OperationKind
  name : Option String
  fields : List Field
deriving DecidableEq, Repr

/-- The operations of a document in order; fragment definitions are dropped. -/
abbrev Document := List Operation

end RowIdentity.Graph
