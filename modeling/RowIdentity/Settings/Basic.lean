import RowIdentity.Flags
import RowIdentity.Registry
import RowIdentity.Settings.Value

/-!
# Settings

* `ModelSettings` — the description of a model as it is configured; `toModel` completes it
* `Settings` — the initial value of the public id flag, the defaults of the backfill, the models
* `Settings.read?` — reads settings from a value of any notation
* `Settings.validated`, `overridden` — what is out of bounds, and the flag from the environment
-/

namespace RowIdentity

open SettingValue

/-! ## Names of the choices -/

def KeyKind.label : KeyKind → String
  | autoIncrement => "auto_increment"
  | explicit => "explicit"
  | uuid => "uuid"

def KeyKind.ofLabel? (s : String) : Option KeyKind :=
  [autoIncrement, explicit, uuid].find? (·.label = s)

def Eligibility.label : Eligibility → String
  | publicId => "public_id"
  | pk => "pk"

def Eligibility.ofLabel? (s : String) : Option Eligibility := [publicId, pk].find? (·.label = s)

/-! ## Models -/

/-- The description of a model as it is configured. -/
structure ModelSettings where
  appLabel : String
  modelName : String
  plural : Option String
  graphType : Option String
  interfaces : Option (List String)
  keyKind : KeyKind
  schemes : List Eligibility
  table : Option String
deriving DecidableEq, Repr

namespace ModelSettings

/-- The graph type; without a list of interfaces it has the node interface. -/
def graph (s : ModelSettings) : Option GraphType :=
  s.graphType.map fun name =>
    match s.interfaces with
    | some interfaces => ⟨name, interfaces⟩
    | none => .node name

/-- The model; what is not configured follows from its names. -/
def toModel (s : ModelSettings) : Model :=
  let named := (Model.named s.appLabel s.modelName).withKeyKind s.keyKind
  let m := s.schemes.foldl Model.withEligibility named
  { m with
    plural := s.plural.getD m.plural
    table := s.table.getD m.table
    graph := s.graph }

/-- Reads the settings of a model. -/
def read? [SettingValue α] (v : α) : Option ModelSettings := do
  let fields ← record? ["app_label", "model_name", "plural", "graphql_type", "interfaces", "pk",
    "schemes", "db_table"] v
  let appLabel ← required? fields "app_label" text?
  let modelName ← required? fields "model_name" text?
  let plural ← withDefault? fields "plural" (optional? text?) none
  let graphType ← withDefault? fields "graphql_type" (optional? text?) none
  let interfaces ← withDefault? fields "interfaces" (optional? (list? text?)) none
  let keyKind ← withDefault? fields "pk" (named? KeyKind.ofLabel?) .autoIncrement
  let schemes ← withDefault? fields "schemes" (list? (named? Eligibility.ofLabel?)) []
  let table ← withDefault? fields "db_table" (optional? text?) none
  some { appLabel, modelName, plural, graphType, interfaces, keyKind, schemes, table }

def toJson (s : ModelSettings) : Json :=
  .obj [("app_label", .str s.appLabel), ("model_name", .str s.modelName),
    ("plural", Json.strOrNull s.plural), ("graphql_type", Json.strOrNull s.graphType),
    ("interfaces", match s.interfaces with
      | some names => Json.strs names
      | none => .null),
    ("pk", .str s.keyKind.label), ("schemes", Json.strs (s.schemes.map Eligibility.label)),
    ("db_table", Json.strOrNull s.table)]

end ModelSettings

/-- Reads a graph type; its interfaces may be left out. -/
def GraphType.read? [SettingValue α] (v : α) : Option GraphType := do
  let fields ← record? ["name", "interfaces"] v
  let name ← required? fields "name" text?
  let interfaces ← withDefault? fields "interfaces" (list? text?) []
  some ⟨name, interfaces⟩

def GraphType.toJson (t : GraphType) : Json :=
  .obj [("name", .str t.name), ("interfaces", Json.strs t.interfaces)]

/-! ## The whole document -/

/-- The defaults of the backfill. -/
structure BackfillSettings where
  batchSize : Nat
  dryRun : Bool
deriving DecidableEq, Repr

def BackfillSettings.default : BackfillSettings := ⟨1000, false⟩

def BackfillSettings.read? [SettingValue α] (v : α) : Option BackfillSettings := do
  let fields ← record? ["batch_size", "dry_run"] v
  let batchSize ← withDefault? fields "batch_size" size? default.batchSize
  let dryRun ← withDefault? fields "dry_run" bool? default.dryRun
  some ⟨batchSize, dryRun⟩

/-- The settings of the program. -/
structure Settings where
  /-- The public id flag at the start. -/
  publicId : Bool
  backfill : BackfillSettings
  models : List ModelSettings
deriving DecidableEq, Repr

namespace Settings

/-- The flag is off and there are no models. -/
def default : Settings := ⟨false, .default, []⟩

def read? [SettingValue α] (v : α) : Option Settings := do
  let fields ← record? ["enable_public_id_logic", "backfill", "models"] v
  let publicId ← withDefault? fields "enable_public_id_logic" bool? default.publicId
  let backfill ← withDefault? fields "backfill" BackfillSettings.read? default.backfill
  let models ← withDefault? fields "models" (list? ModelSettings.read?) default.models
  some ⟨publicId, backfill, models⟩

def toJson (s : Settings) : Json :=
  .obj [("enable_public_id_logic", .bool s.publicId),
    ("backfill", .obj [("batch_size", .nat s.backfill.batchSize),
      ("dry_run", .bool s.backfill.dryRun)]),
    ("models", .arr (s.models.map ModelSettings.toJson))]

/-- Refuses a batch size of zero. -/
def validated (s : Settings) : IdResult Settings :=
  if s.backfill.batchSize = 0 then
    .error (.configValue "backfill.batch_size" "0" "must be at least 1")
  else .ok s

/-- The value of the public id flag from the environment, if there is one, goes before the
configured one. -/
def overridden (s : Settings) : Option String → IdResult Settings
  | none => .ok s
  | some raw =>
    match parseFlag? raw with
    | some on => .ok { s with publicId := on }
    | none => .error (.configValue publicIdFlag raw "expected a boolean")

def registry (s : Settings) : IdResult Registry :=
  Registry.ofModels (s.models.map ModelSettings.toModel)

end Settings

end RowIdentity
