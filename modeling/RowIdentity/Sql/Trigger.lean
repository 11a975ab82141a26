import RowIdentity.Error
import RowIdentity.Text.Quoted

/-!
# Triggers of the row tables

Two triggers on the table of a model keep the mapping table in step with it: one makes the entry of
a new row, the other drops the entry of a deleted one. Names come from configuration, so only plain
ones are accepted.

* `quoteIdentifier`, `quoteLiteral` — a name or an entity type between quotes
* `TriggerStatement` — dropping or creating a trigger
* `triggerStatements` — the statements for one table
-/

namespace RowIdentity

/-- A small ASCII letter, a digit or an underscore. -/
def isIdentifierChar (c : Char) : Bool := c.isLower || c.isDigit || c = '_'

/-- Whether a name can stand between quotes as it is: small letters, digits and underscores, and no
digit at its start. -/
def isPlainIdentifier (name : String) : Bool :=
  !name.toList.isEmpty && !name.toList.head?.any Char.isDigit && name.toList.all isIdentifierChar

/-- A table or trigger name between double quotes. -/
def quoteIdentifier (name : String) : Except Fault String :=
  if isPlainIdentifier name then .ok ("\"" ++ name ++ "\"")
  else .error (.plain ("Invalid SQL identifier: " ++ Quoted.quote name))

/-- Whether an entity type can stand between quotes as it is. -/
def isPlainEntityType (s : String) : Bool :=
  !s.toList.isEmpty && s.toList.all fun c => c.isAlphanum || c = '_' || c = '.'

/-- An entity type between single quotes. -/
def quoteLiteral (s : String) : Except Fault String :=
  if isPlainEntityType s then .ok ("'" ++ s ++ "'")
  else .error (.plain ("Invalid entity type: " ++ Quoted.quote s))

/-- The change of a table that a trigger follows. -/
inductive RowChange where
  | insert
  | delete
deriving DecidableEq, Repr

/-- A statement about a trigger. Names and the entity type stand between their quotes. -/
inductive TriggerStatement where
  | drop (trigger table : String)
  | create (trigger table : String) (change : RowChange) (entityType : String)
deriving DecidableEq, Repr

namespace TriggerStatement

def text : TriggerStatement → String
  | drop trigger table => "DROP TRIGGER IF EXISTS " ++ trigger ++ " ON " ++ table
  | create trigger table .insert entityType =>
    "CREATE TRIGGER " ++ trigger ++ " AFTER INSERT ON " ++ table ++
      " FOR EACH ROW EXECUTE FUNCTION public_id_mapping_after_insert(" ++ entityType ++ ")"
  | create trigger table .delete entityType =>
    "CREATE TRIGGER " ++ trigger ++ " AFTER DELETE ON " ++ table ++
      " FOR EACH ROW EXECUTE FUNCTION public_id_mapping_after_delete(" ++ entityType ++ ")"

end TriggerStatement

/-- The statements that put the triggers of a model on its table, in place of older ones. -/
def triggerStatements (table entityType : String) : Except Fault (List TriggerStatement) := do
  let quoted ← quoteIdentifier table
  let literal ← quoteLiteral entityType
  let onInsert ← quoteIdentifier (table ++ "_public_id_insert")
  let onDelete ← quoteIdentifier (table ++ "_public_id_delete")
  return [.drop onInsert quoted, .create onInsert quoted .insert literal,
    .drop onDelete quoted, .create onDelete quoted .delete literal]

end RowIdentity
