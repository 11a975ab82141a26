import RowIdentity.Query
import RowIdentity.Text.Quoted

/-!
# The log of the backfill command

* `LogLine` — a line: its level, its message and named values
* `LogFilter` — which levels are shown, by the name of their source
* `LogFilter.parse?` — reads a filter such as `warn,backfill_public_ids=debug`
-/

namespace RowIdentity.Command

/-- How much a line matters. -/
inductive LogLevel where
  | error
  | warn
  | info
  | debug
  | trace
deriving DecidableEq, Repr

namespace LogLevel

def all : List LogLevel := [error, warn, info, debug, trace]

def name : LogLevel → String
  | error => "ERROR"
  | warn => "WARN"
  | info => "INFO"
  | debug => "DEBUG"
  | trace => "TRACE"

/-- How many levels matter at least as much. -/
def rank : LogLevel → Nat
  | error => 1
  | warn => 2
  | info => 3
  | debug => 4
  | trace => 5

end LogLevel

/-- A named value of a log line. -/
inductive LogValue where
  | text (s : String)
  | int (n : Int)
  | bool (b : Bool)
deriving DecidableEq, Repr

/-- A value as it is shown; a text stands between quotes. -/
def LogValue.shown : LogValue → String
  | text s => Quoted.quote s
  | int n => Decimal.text n
  | bool b => if b then "true" else "false"

structure LogLine where
  level : LogLevel
  message : String
  values : List (String × LogValue)
deriving DecidableEq, Repr

/-- The text of a line: the message, then each value behind its name. -/
def LogLine.text (l : LogLine) : String :=
  " ".intercalate (l.message :: l.values.map fun (name, v) => name ++ "=" ++ v.shown)

/-! ## Filters -/

/-- A rule of a filter: sources whose names begin with `source` show `most` levels. -/
structure LogRule where
  source : List Char
  most : Nat
deriving DecidableEq, Repr

/-- Rules; of those that fit a source, the one with the longest name holds, of equals the last. -/
abbrev LogFilter := List LogRule

namespace LogFilter

/-- The rule that everything up to a level is shown. -/
def upTo (level : LogLevel) : LogFilter := [⟨[], level.rank⟩]

/-- The number of levels that a filter shows of a source. -/
def shownLevels (f : LogFilter) (source : String) : Nat :=
  let fitting := f.filter fun r => r.source.isPrefixOf source.toList
  let best := fitting.foldl (fun (best : LogRule) r =>
    if best.source.length ≤ r.source.length then r else best) ⟨[], 0⟩
  best.most

def shows (f : LogFilter) (source : String) (level : LogLevel) : Bool :=
  level.rank ≤ f.shownLevels source

/-- The number of levels that a word stands for: a name in any case, or the number itself. -/
def levels? (word : List Char) : Option Nat :=
  let word := String.ofList (word.map Char.toUpper)
  if word = "OFF" || word = "0" then some 0
  else (LogLevel.all.find? fun l => l.name = word || Decimal.text l.rank = word).map LogLevel.rank

/-- A character of the name of a source. -/
def isSourceChar (c : Char) : Bool :=
  c.isAlphanum || c = '_' || c = '-' || c = ':' || 128 ≤ c.toNat

/-- Reads a rule: a level for all sources, a source with all levels, or a source with a level. -/
def rule? (word : List Char) : Option LogRule :=
  match levels? word with
  | some n => some ⟨[], n⟩
  | none =>
    let source := word.takeWhile isSourceChar
    if source.isEmpty then none
    else match word.drop source.length with
      | [] | ['='] => some ⟨source, LogLevel.trace.rank⟩
      | '=' :: level => (levels? level).map fun n => ⟨source, n⟩
      | _ => none

/-- The words between the commas of a text. -/
def words : Nat → List Char → List (List Char)
  | 0, _ => []
  | fuel + 1, cs =>
    match splitOnce ',' cs with
    | some (word, rest) => word :: words fuel rest
    | none => [cs]

/-- Reads a filter; without a rule, only errors are shown. -/
def parse? (s : String) : Option LogFilter := do
  let cs := s.toList
  let rules ← ((words (cs.length + 1) cs).filter (!·.isEmpty)).mapM rule?
  some (if rules.isEmpty then upTo .error else rules)

/-- The filter of an environment: everything up to `info`, unless another can be read. -/
def ofEnvironment (value : Option String) : LogFilter := (value.bind parse?).getD (upTo .info)

end LogFilter

end RowIdentity.Command
