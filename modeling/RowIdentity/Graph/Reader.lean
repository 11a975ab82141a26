import RowIdentity.Graph.Document
import RowIdentity.Graph.Literal
import RowIdentity.Graph.Token

/-!
# Reading query documents

Each reader takes the tokens that are left and returns what it read with the rest; `none` says
that the document is malformed there. The first argument bounds the number of steps; as many as
there are tokens suffice.

* `Document.parse?` — a document from its text
-/

namespace RowIdentity.Graph

namespace Reader

/-- The tokens that are left. -/
abbrev Rest := List Token

/-- Integers of 64 bits. -/
def int? (cs : List Char) : Option Int :=
  Decimal.intWithin? Int64.minValue.toInt Int64.maxValue.toInt cs

mutual

/-- The value of an argument; a constant one holds no variable. -/
def value (constant : Bool) : Nat → Rest → Option (Argument × Rest)
  | 0, _ => none
  | fuel + 1, tokens =>
    match tokens with
    | .name _ :: rest => some (.other, rest)
    | .int cs :: rest => (int? cs).map fun n => (.int n, rest)
    | .float :: rest => some (.other, rest)
    | .str s :: rest => (Literal.unquote? s).map fun s => (.str s, rest)
    | .blockStr s :: rest => some (.str (Literal.unquoteBlock s), rest)
    | .mark '$' :: .name n :: rest => if constant then none else some (.variable n, rest)
    | .mark '[' :: rest => (items constant fuel rest).map (Argument.other, ·)
    | .mark '\x7b' :: rest => (entries constant fuel rest).map (Argument.other, ·)
    | _ => none

/-- The items of a list, up to its closing bracket. -/
def items (constant : Bool) : Nat → Rest → Option Rest
  | 0, _ => none
  | fuel + 1, tokens =>
    match tokens with
    | .mark ']' :: rest => some rest
    | rest => do
      let (_, rest) ← value constant fuel rest
      items constant fuel rest

/-- The entries of an object, up to its closing brace. -/
def entries (constant : Bool) : Nat → Rest → Option Rest
  | 0, _ => none
  | fuel + 1, tokens =>
    match tokens with
    | .mark '\x7d' :: rest => some rest
    | .name _ :: .mark ':' :: rest => do
      let (_, rest) ← value constant fuel rest
      entries constant fuel rest
    | _ => none

end

/-- Arguments behind the first one, up to the closing parenthesis. -/
def argumentsFrom : Nat → Rest → Option (List (String × Argument) × Rest)
  | 0, _ => none
  | fuel + 1, tokens =>
    match tokens with
    | .name n :: .mark ':' :: rest => do
      let (v, rest) ← value false (rest.length + 1) rest
      match rest with
      | .mark ')' :: rest => some ([(n, v)], rest)
      | rest => do
        let (more, rest) ← argumentsFrom fuel rest
        some ((n, v) :: more, rest)
    | _ => none

/-- Arguments in parentheses, one at least, or nothing. -/
def arguments : Rest → Option (List (String × Argument) × Rest)
  | .mark '(' :: rest => argumentsFrom (rest.length + 1) rest
  | rest => some ([], rest)

/-- Directives, which are dropped. -/
def directives : Nat → Rest → Option Rest
  | 0, _ => none
  | fuel + 1, tokens =>
    match tokens with
    | .mark '@' :: .name _ :: rest => do
      let (_, rest) ← arguments rest
      directives fuel rest
    | .mark '@' :: _ => none
    | rest => some rest

/-- A name with an alias before it or without. -/
def label : Rest → Option (Option String × String × Rest)
  | .name a :: .mark ':' :: .name n :: rest => some (some a, n, rest)
  | .name _ :: .mark ':' :: _ => none
  | .name n :: rest => some (none, n, rest)
  | _ => none

/-- The fields of a selection up to its closing brace, one selection at least; fragments are
dropped. -/
def selections : Nat → Bool → Rest → Option (List Field × Rest)
  | 0, _, _ => none
  | fuel + 1, first, tokens =>
    match tokens with
    | .mark '\x7d' :: rest => if first then none else some ([], rest)
    | .spread :: .name n :: rest => do
      -- a type condition or the name of a fragment
      let rest ← if n = "on" then
          match rest with
          | .name _ :: rest => do
            match ← directives (rest.length + 1) rest with
            | .mark '\x7b' :: rest => (selections fuel true rest).map (·.2)
            | _ => none
          | _ => none
        else directives (rest.length + 1) rest
      selections fuel false rest
    | .spread :: rest => do
      match ← directives (rest.length + 1) rest with
      | .mark '\x7b' :: rest => do
        let (_, rest) ← selections fuel true rest
        selections fuel false rest
      | _ => none
    | tokens => do
      let (alias?, name, rest) ← label tokens
      let (arguments, rest) ← arguments rest
      let rest ← directives (rest.length + 1) rest
      let (inner, rest) ← match rest with
        | .mark '\x7b' :: rest => selections fuel true rest
        | rest => some ([], rest)
      let field : Field := ⟨alias?, name, arguments, inner.map fun f => ⟨f.alias?, f.name⟩⟩
      let (more, rest) ← selections fuel false rest
      some (field :: more, rest)

/-- A selection with its braces. -/
def selectionSet : Rest → Option (List Field × Rest)
  | .mark '\x7b' :: rest => selections (2 * rest.length + 2) true rest
  | _ => none

/-- A type: a name or a list in brackets, with an exclamation mark or without. -/
def typeRef : Nat → Rest → Option Rest
  | 0, _ => none
  | fuel + 1, tokens => do
    let rest ← match tokens with
      | .name _ :: rest => some rest
      | .mark '[' :: rest => do
        match ← typeRef fuel rest with
        | .mark ']' :: rest => some rest
        | _ => none
      | _ => none
    match rest with
    | .mark '!' :: rest => some rest
    | rest => some rest

/-- Variable definitions behind the first one, up to the closing parenthesis. -/
def variablesFrom : Nat → Rest → Option Rest
  | 0, _ => none
  | fuel + 1, tokens =>
    match tokens with
    | .mark '$' :: .name _ :: .mark ':' :: rest => do
      let rest ← typeRef (rest.length + 1) rest
      let rest ← match rest with
        | .mark '=' :: rest => (value true (rest.length + 1) rest).map (·.2)
        | rest => some rest
      match rest with
      | .mark ')' :: rest => some rest
      | rest => variablesFrom fuel rest
    | _ => none

/-- Variable definitions in parentheses, one at least, or nothing. -/
def variableDefinitions : Rest → Option Rest
  | .mark '(' :: rest => variablesFrom (rest.length + 1) rest
  | rest => some rest

/-- An operation behind its keyword. -/
def operation (kind : OperationKind) (tokens : Rest) : Option (Operation × Rest) := do
  let (name, rest) := match tokens with
    | .name n :: rest => (some n, rest)
    | rest => (none, rest)
  let rest ← variableDefinitions rest
  let rest ← directives (rest.length + 1) rest
  let (fields, rest) ← selectionSet rest
  some (⟨kind, name, fields⟩, rest)

/-- A fragment definition behind its keyword, which is dropped. -/
def fragment : Rest → Option Rest
  | .name _ :: .name on :: .name _ :: rest => do
    if on ≠ "on" then none
    let rest ← directives (rest.length + 1) rest
    (selectionSet rest).map (·.2)
  | _ => none

/-- Definitions up to the end. -/
def definitions : Nat → Rest → Option Document
  | 0, _ => none
  | fuel + 1, tokens =>
    match tokens with
    | [] => some []
    | .name "fragment" :: rest => do definitions fuel (← fragment rest)
    | tokens => do
      let (op, rest) ← match tokens with
        | .name "query" :: rest => operation .query rest
        | .name "mutation" :: rest => operation .mutation rest
        | .name "subscription" :: rest => operation .subscription rest
        | rest => (selectionSet rest).map fun (fields, rest) => (⟨.query, none, fields⟩, rest)
      let more ← definitions fuel rest
      some (op :: more)

end Reader

/-- Reads a document, which holds one definition at least. -/
def Document.parse? (text : String) : Option Document := do
  let tokens ← Token.ofText? text
  if tokens.isEmpty then none else Reader.definitions (tokens.length + 1) tokens

end RowIdentity.Graph
