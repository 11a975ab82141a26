import RowIdentity.Command.Run
import RowIdentity.Json.Writer

/-!
# The backfill command as a program

`main` reads the environment and the settings file, runs the command, prints the reports and the
log, and ends with the exit code of the run. No database client is linked in, so that every
connection is refused: a run gets as far as its settings and its registry.
-/

namespace RowIdentity.Command

/-- The names of the environment that a run looks at. -/
def environmentNames : List String :=
  ["DATABASE_URL", "BASEAPP_IDS_CONFIG", publicIdFlag, "RUST_LOG"]

/-- The environment of the process. -/
def readEnvironment : IO (String → Option String) := do
  let values ← environmentNames.filterMapM fun name => do
    return (← IO.getEnv name).map (name, ·)
  return fun name => values.lookup name

/-- A failure of the system to read a file, in the words of the system and with its number. -/
def readFailure : IO.Error → String
  | .inappropriateType _ code text | .permissionDenied _ code text | .invalidArgument _ code text =>
    text.capitalize ++ " (os error " ++ Decimal.text code.toNat ++ ")"
  | e => toString e

/-- What the process finds under a path. -/
def readSettingsFile (path : String) : IO SettingsFile := do
  try
    match String.fromUTF8? (← IO.FS.readBinFile path) with
    | some text => return .text text
    | none => return .unreadable "stream did not contain valid UTF-8"
  catch
    | .noFileOrDirectory .. => return .missing
    | e => return .unreadable (readFailure e)

/-- The text of a refused connection. -/
def noClient : String := "error communicating with database: no database client is linked in"

def refuseAll : (c : SqlCall) → Unit → c.Reply × Unit
  | .connect _, s => (.error noClient, s)
  | .begin, s => (.error noClient, s)
  | .commit, s => (.error noClient, s)
  | .rollback, s => ((), s)
  | .run _, s => (.error noClient, s)
  | .flag, s => (false, s)
  | .stamp, s => (⟨.zero, Instant.ofMicros 0⟩, s)

/-- A line of the log with its level and its source. -/
def shownLine (l : LogLine) : String :=
  String.ofList (List.replicate (5 - l.level.name.length) ' ') ++ l.level.name ++ " " ++
    commandName ++ ": " ++ l.text

def printOutcome (o : Outcome) : IO Unit := do
  for r in o.reports do IO.println r.toJson.render
  for l in o.log do IO.println (shownLine l)

def runProcess (args : List String) : IO UInt32 := do
  let env ← readEnvironment
  let file ← match Invocation.parse? env args with
    | none =>
      IO.eprintln usageText
      pure .missing
    | some .help =>
      IO.println helpText
      pure .missing
    | some .version =>
      IO.println versionText
      pure .missing
    | some (.run a) => readSettingsFile a.config
  let (o, _) := (run ⟨env, fun _ => file⟩ args).run refuseAll ()
  printOutcome o
  return o.code.toUInt32

end RowIdentity.Command

/-- Creates missing mapping entries. -/
def main (args : List String) : IO UInt32 := RowIdentity.Command.runProcess args
