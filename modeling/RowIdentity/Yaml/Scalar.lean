import RowIdentity.Text.Hexadecimal
import RowIdentity.Yaml.Cursor

/-!
# Scalars of a YAML text

* `plain?` — a scalar without quotes, up to an indicator that ends it
* `quoted?` — a scalar between single or double quotes
* `block?` — a literal or folded block
-/

namespace RowIdentity.Yaml

/-- How a scalar is written. -/
inductive ScalarStyle where
  | plain
  | quoted
  | literal
  | folded
deriving DecidableEq, Repr

/-! ## Plain scalars -/

/-- The characters of a plain word. Among flow collections a colon before an indicator is an
error. -/
def plainWord? (flow : Bool) : List Char → Option (List Char)
  | [] => some []
  | c :: rest =>
    if isWhite c then some []
    else if flow && c = ':' && rest.head?.any (",?[]\x7b\x7d".toList.contains ·) then none
    else if c = ':' && atWordEnd rest then some []
    else if flow && ",[]\x7b\x7d".toList.contains c then some []
    else (plainWord? flow rest).map (c :: ·)

/-- Reads words with the gaps between them. The flag tells whether the scalar is followed by a line
break. -/
def plainWords? (flow : Bool) (indent : Nat) :
    Nat → List Char → Gap → Cursor → Option (List Char × Bool × Cursor)
  | 0, _, _, _ => none
  | fuel + 1, text, gap, c =>
    if c.atMarker || c.rest.head? = some '#' then some (text, gap.isMultiline, c)
    else do
      let word ← plainWord? flow c.rest
      let (text, gap) :=
        if word.isEmpty then (text, gap) else (text ++ gap.folded ++ word, .none)
      let c := c.skip word.length
      if !c.rest.head?.any isWhite then some (text, gap.isMultiline, c)
      else
        let (gap, c) ← c.gap? indent c.rest.length .none
        if !flow && c.column < indent then some (text, gap.isMultiline, c)
        else plainWords? flow indent fuel text gap c

/-- Reads a plain scalar whose further lines are indented at least as far as given. -/
def plain? (flow : Bool) (indent : Nat) (c : Cursor) : Option (List Char × Bool × Cursor) :=
  plainWords? flow indent (c.rest.length + 1) [] .none c

/-! ## Quoted scalars -/

/-- The character of a numeric escape of so many digits. -/
def numericEscape? (digits : Nat) (cs : List Char) : Option Char := do
  let n ← if cs.length < digits then none else Hexadecimal.value? (cs.take digits)
  if n < 0xD800 || (0xDFFF < n && n ≤ 0x10FFFF) then some (Char.ofNat n) else none

/-- The character of an escape behind the backslash, and the number of characters that it takes. -/
def escape? : List Char → Option (Char × Nat)
  | 'x' :: rest => (numericEscape? 2 rest).map (·, 3)
  | 'u' :: rest => (numericEscape? 4 rest).map (·, 5)
  | 'U' :: rest => (numericEscape? 8 rest).map (·, 9)
  | c :: _ =>
    let known : List (Char × Nat) :=
      [('0', 0), ('a', 7), ('b', 8), ('t', 9), ('\t', 9), ('n', 10), ('v', 11), ('f', 12),
        ('r', 13), ('e', 27), (' ', 32), ('"', 34), ('/', 47), ('\\', 92), ('N', 0x85),
        ('_', 0xA0), ('L', 0x2028), ('P', 0x2029)]
    (known.find? (·.1 = c)).map fun k => (Char.ofNat k.2, 1)
  | [] => none

/-- The characters of a word between quotes. The flag tells whether it ends at an escaped line
break, which is left out. -/
def quotedWord? (quote : Char) :
    Nat → List Char → Cursor → Option (List Char × Bool × Cursor)
  | 0, _, _ => none
  | fuel + 1, text, c =>
    match c.rest with
    | [] => some (text, false, c)
    | ch :: rest =>
      if isWhite ch then some (text, false, c)
      else if ch = quote then
        if quote = '\'' && rest.head? = some '\'' then
          quotedWord? quote fuel (text ++ ['\'']) (c.skip 2)
        else some (text, false, c)
      else if quote = '"' && ch = '\\' then
        if rest.head?.any isBreak then some (text, true, (c.skip 1).skipBreak)
        else do
          let (e, n) ← escape? rest
          quotedWord? quote fuel (text ++ [e]) (c.skip (n + 1))
      else quotedWord? quote fuel (text ++ [ch]) (c.skip 1)

/-- Reads words up to the closing quote. -/
def quotedWords? (quote : Char) : Nat → List Char → Cursor → Option (List Char × Cursor)
  | 0, _, _ => none
  | fuel + 1, text, c =>
    if c.atMarker || c.rest.isEmpty then none
    else do
      let (text, joined, c) ← quotedWord? quote (c.rest.length + 1) text c
      if !joined && c.rest.head? = some quote then some (text, c.skip 1)
      else
        let (gap, c) ← c.gap? 0 c.rest.length .none
        quotedWords? quote fuel (text ++ if joined then gap.breaks else gap.folded) c

/-- Reads a quoted scalar from its opening quote on. -/
def quoted? (c : Cursor) : Option (List Char × Cursor) := do
  let quote ← c.rest.head?
  quotedWords? quote (c.rest.length + 1) [] (c.skip 1)

/-! ## Blocks -/

/-- What becomes of the line breaks at the end of a block. -/
inductive Chomp where
  | strip
  | clip
  | keep
deriving DecidableEq

/-- The sign that says how a block ends. -/
def chompSign? : Char → Option Chomp
  | '+' => some .keep
  | '-' => some .strip
  | _ => none

/-- A digit other than zero. -/
def depth? (c : Char) : Option Nat := if '1' ≤ c && c ≤ '9' then some (c.toNat - 48) else none

/-- The head of a block: how it ends, how far it is indented if it says so, and the number of
characters of both. -/
def blockHead : List Char → Chomp × Option Nat × Nat
  | c :: d :: _ =>
    match chompSign? c, depth? c with
    | some chomp, _ => match depth? d with
      | some n => (chomp, some n, 2)
      | none => (chomp, none, 1)
    | none, some n => match chompSign? d with
      | some chomp => (chomp, some n, 2)
      | none => (.clip, some n, 1)
    | none, none => (.clip, none, 0)
  | [c] =>
    match chompSign? c, depth? c with
    | some chomp, _ => (chomp, none, 1)
    | none, some n => (.clip, some n, 1)
    | none, none => (.clip, none, 0)
  | [] => (.clip, none, 0)

/-- Reads empty lines and the indentation of the line behind them. Without a given indentation the
deepest of these lines sets it, which is the second result. -/
def emptyLines? (indent : Option Nat) :
    Nat → List Char → Nat → Cursor → Option (List Char × Nat × Cursor)
  | 0, breaks, deepest, c => some (breaks, deepest, c)
  | fuel + 1, breaks, deepest, c =>
    let spaces := (c.rest.takeWhile (· = ' ')).length
    let c := c.skip (match indent with
      | some n => min spaces (n - c.column)
      | none => spaces)
    let deepest := max deepest c.column
    if c.rest.head? = some '\t' && indent.all (c.column < ·) then none
    else match c.rest with
      | [] => some (breaks, deepest, c)
      | ch :: _ =>
        if isBreak ch then
          emptyLines? indent fuel (breaks ++ [Cursor.keptBreak ch]) deepest c.skipBreak
        else some (breaks, deepest, c)

/-- What has been read of a block: its text, the break behind its last line, and the empty lines
behind that. -/
structure BlockText where
  text : List Char
  lastBreak : List Char
  emptyLines : List Char
  /-- The last line begins with a blank. -/
  isIndented : Bool

/-- Adds a line. A folded block joins lines, unless one of them begins with a blank. -/
def BlockText.add (b : BlockText) (folded : Bool) (line lastBreak : List Char) : BlockText :=
  let indented := line.head?.any isBlank
  let joint :=
    if folded && b.lastBreak = ['\n'] && !b.isIndented && !indented then
      if b.emptyLines.isEmpty then [' '] else b.emptyLines
    else b.lastBreak ++ b.emptyLines
  ⟨b.text ++ joint ++ line, lastBreak, [], indented⟩

/-- Reads the lines of a block. -/
def blockLines? (folded : Bool) (indent : Nat) :
    Nat → BlockText → Cursor → Option (BlockText × Cursor)
  | 0, b, c => some (b, c)
  | fuel + 1, b, c =>
    if c.column ≠ indent || c.rest.isEmpty then some (b, c)
    else do
      let line := c.rest.takeWhile (!isBreak ·)
      let c := c.skip line.length
      let b := b.add folded line ((c.rest.head?.map Cursor.keptBreak).toList)
      let (breaks, _, c) ← emptyLines? (some indent) (c.rest.length + 1) [] 0 c.skipBreak
      blockLines? folded indent fuel { b with emptyLines := breaks } c

/-- Reads a block from its indicator on, inside a collection that is indented as given. -/
def block? (outer : Option Nat) (c : Cursor) : Option (List Char × Cursor) := do
  let folded := c.rest.head? = some '>'
  let c := c.skip 1
  let (chomp, depth, n) := blockHead c.rest
  let c := (c.skip n).skipWhile isBlank
  let c := if c.rest.head? = some '#' then c.skipWhile (!isBreak ·) else c
  if !atLineEnd c.rest then none
  let c := c.skipBreak
  let given := depth.map ((outer.getD 0) + ·)
  let (breaks, deepest, c) ← emptyLines? given (c.rest.length + 1) [] 0 c
  let indent := given.getD (max deepest (max 1 ((outer.map (· + 1)).getD 0)))
  let (b, c) ← blockLines? folded indent (c.rest.length + 1) ⟨[], [], breaks, false⟩ c
  let tail := match chomp with
    | .strip => []
    | .clip => b.lastBreak
    | .keep => b.lastBreak ++ b.emptyLines
  some (b.text ++ tail, c)

end RowIdentity.Yaml
