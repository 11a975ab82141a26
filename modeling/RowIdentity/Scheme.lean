import RowIdentity.Model
import RowIdentity.Query

/-!
# Identifier schemes

* `IdScheme` — how the rows of a model are identified to the outside
* `Model.scheme` — the scheme of a model under a value of the public id flag
* `IdScheme.annotate` — asks a query for the column the scheme shows
-/

namespace RowIdentity

/-- How the rows of a model are identified to the outside. -/
inductive IdScheme where
  /-- The key; to graph clients, the type name and the key in base64. -/
  | legacy
  /-- A UUID from the mapping table. -/
  | publicId
  /-- The key. -/
  | pk
deriving DecidableEq, Repr

def IdScheme.name : IdScheme → String
  | legacy => "legacy"
  | publicId => "public_id"
  | pk => "pk"

/-- The scheme of a model: Public-ID where it is declared, keys are counted and the flag is on;
else Pk where it is declared; else Legacy. -/
def Model.scheme (m : Model) (flag : Bool) : IdScheme :=
  if flag && m.isPublicIdEligible && m.hasAutoIncrement then .publicId
  else if m.isPkEligible then .pk
  else .legacy

/-- Asks a query for the public ids where the scheme shows them. -/
def IdScheme.annotate (s : IdScheme) (q : RowQuery) : RowQuery :=
  match s with
  | .publicId => q.annotate
  | .legacy | .pk => q

end RowIdentity
