import RowIdentity.Query
import RowIdentity.Text.Decimal

/-!
# The arguments of the backfill command

* `Arguments` — what a run is told, from the command line and the environment
* `Invocation` — help, the version, or a run
* `Invocation.parse?` — reads a command line; `none` is a misuse
-/

namespace RowIdentity.Command

/-- What a run is told. -/
structure Arguments where
  databaseUrl : String
  config : String
  app : Option String
  model : Option String
  pk : Option Int64
  batchSize : Option Nat
  dryRun : Bool
deriving DecidableEq, Repr

/-- What a command line asks for. -/
inductive Invocation where
  | help
  | version
  | run (a : Arguments)
deriving DecidableEq, Repr

/-- The options that take a value. -/
inductive ValuedOption where
  | databaseUrl
  | config
  | app
  | model
  | pk
  | batchSize
deriving DecidableEq, Repr

namespace ValuedOption

def name : ValuedOption → String
  | databaseUrl => "database-url"
  | config => "config"
  | app => "app"
  | model => "model"
  | pk => "pk"
  | batchSize => "batch-size"

def all : List ValuedOption := [databaseUrl, config, app, model, pk, batchSize]

def ofName? (name : List Char) : Option ValuedOption := all.find? (·.name.toList = name)

end ValuedOption

/-- The options that a command line has given so far. -/
structure Given where
  databaseUrl : Option String
  config : Option String
  app : Option String
  model : Option String
  pk : Option Int64
  batchSize : Option Nat
  dryRun : Bool
deriving DecidableEq, Repr

namespace Given

def none : Given := ⟨.none, .none, .none, .none, .none, .none, false⟩

def has (g : Given) : ValuedOption → Bool
  | .databaseUrl => g.databaseUrl.isSome
  | .config => g.config.isSome
  | .app => g.app.isSome
  | .model => g.model.isSome
  | .pk => g.pk.isSome
  | .batchSize => g.batchSize.isSome

/-- Gives an option a value of its kind; no option is given twice. -/
def take? (g : Given) (o : ValuedOption) (value : List Char) : Option Given :=
  if g.has o then .none else
  let text := String.ofList value
  match o with
  | .databaseUrl => some { g with databaseUrl := some text }
  | .config => if value.isEmpty then .none else some { g with config := some text }
  | .app => some { g with app := some text }
  | .model => some { g with model := some text }
  | .pk => (Decimal.intWithin? Int64.minValue.toInt Int64.maxValue.toInt value).map fun n =>
      { g with pk := some (Int64.ofInt n) }
  | .batchSize => (Decimal.natBelow? UInt64.size value).map fun n => { g with batchSize := some n }

end Given

/-- Whether an argument can be the value of the option before it: it has no dash in front, or is
a dash alone. -/
def isValue (arg : List Char) : Bool := arg.head? ≠ some '-' || arg = ['-']

/-- What has been read of a command line. -/
inductive Reading where
  | help
  | version
  | given (g : Given)
deriving DecidableEq, Repr

/-- Reads arguments in order; asking for help or the version ends the reading. -/
def read? (g : Given) : List (List Char) → Option Reading
  | [] => some (.given g)
  | ['-', '-'] :: rest => if rest.isEmpty then some (.given g) else none
  | ('-' :: '-' :: long) :: rest =>
    match splitOnce '=' long with
    | some (name, value) => do
      read? (← g.take? (← ValuedOption.ofName? name) value) rest
    | none =>
      if long = "help".toList then some .help
      else if long = "version".toList then some .version
      else if long = "dry-run".toList then
        if g.dryRun then none else read? { g with dryRun := true } rest
      else
        match ValuedOption.ofName? long, rest with
        | some o, value :: rest =>
          if isValue value then (g.take? o value).bind fun g => read? g rest else none
        | _, _ => none
  | ('-' :: 'h' :: _) :: _ => some .help
  | ('-' :: 'V' :: _) :: _ => some .version
  | ['-', 'c'] :: value :: rest =>
    if isValue value then (g.take? .config value).bind fun g => read? g rest else none
  | ('-' :: 'c' :: '=' :: value) :: rest => do read? (← g.take? .config value) rest
  | ('-' :: 'c' :: c :: value) :: rest => do read? (← g.take? .config (c :: value)) rest
  | _ :: _ => none

/-- Completes what is given from the environment. The database must be named; a model needs an app
and a key needs a model. -/
def Given.complete? (g : Given) (env : String → Option String) : Option Arguments := do
  let databaseUrl ← g.databaseUrl <|> env "DATABASE_URL"
  let config := ((g.config <|> env "BASEAPP_IDS_CONFIG").getD "ids.yaml")
  if config.isEmpty || (g.model.isSome && g.app.isNone) || (g.pk.isSome && g.model.isNone) then
    Option.none
  some ⟨databaseUrl, config, g.app, g.model, g.pk, g.batchSize, g.dryRun⟩

/-- Reads a command line. -/
def Invocation.parse? (env : String → Option String) (args : List String) : Option Invocation := do
  match ← read? .none (args.map String.toList) with
  | .help => some .help
  | .version => some .version
  | .given g => return .run (← g.complete? env)

end RowIdentity.Command
