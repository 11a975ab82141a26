/-!
# What the backfill command says about itself

* `commandName`, `versionText`, `usageText`, `helpText`
-/

namespace RowIdentity.Command

/-- The name of the command, which is also the source of its log lines. -/
def commandName : String := "backfill_public_ids"

def versionText : String := commandName ++ " 0.1.0"

def usageText : String := "Usage: " ++ commandName ++ " [OPTIONS] --database-url <DATABASE_URL>"

def optionTexts : List (String × String) :=
  [("    --database-url <DATABASE_URL>", "PostgreSQL connection string [env: DATABASE_URL=]"),
    ("-c, --config <CONFIG>",
      "Path to the YAML model configuration [env: BASEAPP_IDS_CONFIG=] [default: ids.yaml]"),
    ("    --app <APP>", "Only backfill models of this app"),
    ("    --model <MODEL>", "Only backfill this model (requires --app)"),
    ("    --pk <PK>", "Only backfill this primary key (requires --model)"),
    ("    --batch-size <BATCH_SIZE>", "Rows per batch; defaults to the one of the configuration"),
    ("    --dry-run", "Count what would be created without writing"),
    ("-h, --help", "Print help"),
    ("-V, --version", "Print version")]

/-- An option and its meaning in two columns. -/
def optionLine (o : String × String) : String :=
  "  " ++ o.1 ++ String.ofList (List.replicate (35 - o.1.length) ' ') ++ o.2

def helpText : String :=
  "\n".intercalate
    (["Create missing public id mapping entries in batches", "", usageText, "", "Options:"] ++
      optionTexts.map optionLine)

end RowIdentity.Command
