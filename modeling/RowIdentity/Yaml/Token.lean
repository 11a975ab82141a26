import RowIdentity.Text.Decimal
import RowIdentity.Text.Percent
import RowIdentity.Yaml.Scalar

/-!
# Tokens of a YAML text

Indentation becomes tokens that open and close block collections. Whether a word is the key of a
mapping is known only at the colon behind it, so the places where a key may begin are remembered
and the tokens of the mapping are put in there afterwards.

* `Token` — the tokens
* `Scan` — the state between two tokens
* `tokens?` — the tokens of a text
-/

namespace RowIdentity.Yaml

/-- The tokens of a YAML text. -/
inductive Token where
  | version (major minor : Nat)
  | tagHandle (handle uri : String)
  | documentStart
  | documentEnd
  | blockSequence
  | blockMapping
  | blockEnd
  | sequenceStart
  | sequenceEnd
  | mappingStart
  | mappingEnd
  | comma
  | entry
  | key
  | value
  | alias (name : String)
  | anchor (name : String)
  | tag (handle suffix : String)
  | scalar (text : String) (style : ScalarStyle)
deriving DecidableEq, Repr

/-- A place where the key of a mapping may begin. -/
structure KeyPlace where
  /-- The number of tokens before it. -/
  tokens : Nat
  index : Nat
  line : Nat
  column : Nat
  /-- Nothing but a key can stand here. -/
  isRequired : Bool

/-- The state between two tokens. -/
structure Scan where
  cursor : Cursor
  /-- The columns of the open block collections, the innermost first. -/
  indents : List Nat
  /-- The place for a key at each level of flow collections, the innermost first. -/
  places : List (Option KeyPlace)
  /-- Whether a key may begin here. -/
  mayBegin : Bool
  /-- The tokens so far, the last one first. -/
  tokens : List Token

namespace Scan

def start (text : List Char) : Scan := ⟨.start text, [], [none], true, []⟩

/-- Whether a flow collection is open. -/
def inFlow (s : Scan) : Bool := 1 < s.places.length

def emit (s : Scan) (t : Token) : Scan := { s with tokens := t :: s.tokens }

def moveTo (s : Scan) (c : Cursor) : Scan := { s with cursor := c }

/-- One more token, of so many characters. -/
def take (s : Scan) (n : Nat) (t : Token) : Scan := (s.emit t).moveTo (s.cursor.skip n)

/-- Says whether a key may begin next. -/
def allow (s : Scan) (b : Bool) : Scan := { s with mayBegin := b }

/-- Puts a token behind the first `n`. -/
def insert (s : Scan) (n : Nat) (t : Token) : Scan :=
  let behind := s.tokens.length - n
  { s with tokens := s.tokens.take behind ++ t :: s.tokens.drop behind }

/-! ## Blocks -/

/-- Whether a column is right of the innermost block collection. -/
def isDeeper (s : Scan) (column : Nat) : Bool := s.indents.head?.all (· < column)

/-- Opens a block collection behind the first `n` tokens, if the column is deeper. -/
def openBlock (s : Scan) (column n : Nat) (t : Token) : Scan :=
  if s.inFlow || !s.isDeeper column then s
  else { s.insert n t with indents := column :: s.indents }

/-- Closes the block collections right of a column; without one, all of them. -/
def closeBlocks (s : Scan) (column : Option Nat) : Scan :=
  if s.inFlow then s else
  let closed := s.indents.takeWhile fun i => column.all (· < i)
  { s with
    indents := s.indents.drop closed.length
    tokens := closed.map (fun _ => .blockEnd) ++ s.tokens }

/-! ## Places for keys -/

/-- Gives up the place for a key at this level, unless a key is required there. -/
def dropPlace (s : Scan) : Option Scan :=
  match s.places with
  | some p :: rest => if p.isRequired then none else some { s with places := none :: rest }
  | _ => some s

/-- Remembers this place for a key, if one may begin here. -/
def savePlace (s : Scan) : Option Scan :=
  if !s.mayBegin then some s else do
    let s ← s.dropPlace
    let c := s.cursor
    let required := !s.inFlow && s.indents.head? = some c.column
    some { s with
      places := some ⟨s.tokens.length, c.index, c.line, c.column, required⟩ :: s.places.tail }

/-- Whether a key cannot have begun at a place any more: it is on an earlier line, or more than
1024 characters ago. -/
def isPast (s : Scan) (p : KeyPlace) : Bool :=
  p.line < s.cursor.line || p.index + 1024 < s.cursor.index

/-- Gives up the places that are past. -/
def dropPastPlaces (s : Scan) : Option Scan := do
  let places ← s.places.mapM fun place =>
    match place with
    | some p => if !s.isPast p then some place else if p.isRequired then none else some none
    | none => some none
  some { s with places }

/-- Goes on to the next token, past blanks, comments and line breaks. A tab may not stand where a
key may begin. -/
def toNext : Nat → Scan → Scan
  | 0, s => s
  | fuel + 1, s =>
    let c := s.cursor.skipWhile fun ch => ch = ' ' || ((s.inFlow || !s.mayBegin) && ch = '\t')
    let c := if c.rest.head? = some '#' then c.skipWhile (!isBreak ·) else c
    if c.rest.head?.any isBreak then
      toNext fuel ((s.moveTo c.skipBreak).allow (s.mayBegin || !s.inFlow))
    else s.moveTo c

/-! ## Indicators -/

/-- A token that stands at the start of a line and closes all blocks. -/
def topLevel (s : Scan) : Option Scan := do
  let s ← (s.closeBlocks none).dropPlace
  some (s.allow false)

/-- `[` or an opening brace. -/
def openFlow (s : Scan) (t : Token) : Option Scan := do
  let s ← s.savePlace
  some ({ s with places := none :: s.places }.allow true |>.take 1 t)

/-- `]` or a closing brace. -/
def closeFlow (s : Scan) (t : Token) : Option Scan := do
  let s ← s.dropPlace
  let places := if s.inFlow then s.places.tail else s.places
  some ({ s with places }.allow false |>.take 1 t)

def comma (s : Scan) : Option Scan := do
  let s ← s.dropPlace
  some ((s.allow true).take 1 .comma)

def dash (s : Scan) : Option Scan := do
  if !s.inFlow && !s.mayBegin then none
  let s ← (s.openBlock s.cursor.column s.tokens.length .blockSequence).dropPlace
  some ((s.allow true).take 1 .entry)

/-- The question mark before a key. -/
def keyMark (s : Scan) : Option Scan := do
  if !s.inFlow && !s.mayBegin then none
  let s ← (s.openBlock s.cursor.column s.tokens.length .blockMapping).dropPlace
  some ((s.allow (!s.inFlow)).take 1 .key)

/-- The colon before a value. What stands at the place for a key is one. -/
def colon (s : Scan) : Option Scan :=
  match s.places with
  | some p :: rest =>
    let s := (s.insert p.tokens .key).openBlock p.column p.tokens .blockMapping
    some ({ s with places := none :: rest }.allow false |>.take 1 .value)
  | _ => do
    if !s.inFlow && !s.mayBegin then none
    let s := s.openBlock s.cursor.column s.tokens.length .blockMapping
    some ((s.allow (!s.inFlow)).take 1 .value)

/-! ## Anchors, tags and directives -/

/-- The name of an anchor or an alias. -/
def anchorName? (rest : List Char) : Option (List Char) :=
  let name := rest.takeWhile isNameChar
  let behind := rest.drop name.length
  if name.isEmpty then none
  else if atWordEnd behind || behind.head?.any fun c =>
      "?:,]\x7d%@".toList.contains c || c.toNat = 96 then some name
  else none

def named (s : Scan) (t : String → Token) : Option Scan := do
  let s ← s.savePlace
  let name ← anchorName? s.cursor.rest.tail
  some ((s.allow false).take (name.length + 1) (t (String.ofList name)))

/-- A character of a tag. -/
def isTagChar (c : Char) : Bool := isNameChar c || ";/?:@&=+$.!~*'()%".toList.contains c

/-- A character of a tag between angle brackets. -/
def isUriChar (c : Char) : Bool := isTagChar c || ",[]".toList.contains c

/-- The text of a tag; percent signs stand before the octets of a character. -/
def uriText? (cs : List Char) : Option String := Percent.segment? (String.ofList cs)

/-- The handle of a tag: `!`, `!!` or a name between exclamation marks. -/
def handle (rest : List Char) : List Char :=
  let name := rest.tail.takeWhile isNameChar
  match rest.drop (name.length + 1) with
  | '!' :: _ => '!' :: name ++ ['!']
  | _ => ['!']

/-- A tag and the number of its characters. -/
def tag? (rest : List Char) : Option (Token × Nat) :=
  match rest with
  | '!' :: '<' :: more => do
    let uri := more.takeWhile isUriChar
    if uri.isEmpty || (more.drop uri.length).head? ≠ some '>' then none
    else some (.tag "" (← uriText? uri), uri.length + 3)
  | _ => do
    let h := handle rest
    let suffix := (rest.drop h.length).takeWhile isTagChar
    let n := h.length + suffix.length
    if h = ['!'] && suffix.isEmpty then some (.tag "" "!", n)
    else if suffix.isEmpty then none
    else some (.tag (String.ofList h) (← uriText? suffix), n)

/-- A tag before a node. -/
def tagged (s : Scan) : Option Scan := do
  let s ← s.savePlace
  let (t, n) ← tag? s.cursor.rest
  let behind := s.cursor.rest.drop n
  if atWordEnd behind || (s.inFlow && behind.head? = some ',') then
    some ((s.allow false).take n t)
  else none

/-- A number of a version. -/
def versionNumber? (cs : List Char) : Option (Nat × Nat) :=
  let ds := cs.takeWhile Char.isDigit
  if ds.isEmpty || 9 < ds.length then none
  else some (Decimal.value ds, ds.length)

/-- The version a directive states. -/
def version? (c : Cursor) : Option (Token × Cursor) := do
  let c := c.skipWhile isBlank
  let (major, n) ← versionNumber? c.rest
  let c := c.skip n
  if c.rest.head? ≠ some '.' then none
  let c := c.skip 1
  let (minor, n) ← versionNumber? c.rest
  some (.version major minor, c.skip n)

/-- The handle a directive declares. -/
def tagHandle? (c : Cursor) : Option (Token × Cursor) := do
  let c := c.skipWhile isBlank
  if c.rest.head? ≠ some '!' then none
  let h := handle c.rest
  let c := c.skip h.length
  if !c.rest.head?.any isBlank then none
  let c := c.skipWhile isBlank
  let uri := c.rest.takeWhile isUriChar
  let c := c.skip uri.length
  if uri.isEmpty || !atWordEnd c.rest then none
  some (.tagHandle (String.ofList h) (← uriText? uri), c)

def directive (s : Scan) : Option Scan := do
  let s ← s.topLevel
  let name := s.cursor.rest.tail.takeWhile isNameChar
  let c := s.cursor.skip (name.length + 1)
  if !atWordEnd c.rest then none
  let (t, c) ←
    if name = "YAML".toList then version? c
    else if name = "TAG".toList then tagHandle? c
    else none
  let c := c.skipWhile isBlank
  let c := if c.rest.head? = some '#' then c.skipWhile (!isBreak ·) else c
  if !atLineEnd c.rest then none
  some ((s.emit t).moveTo c.skipBreak)

/-! ## Scalars -/

def block (s : Scan) (style : ScalarStyle) : Option Scan := do
  let s ← s.dropPlace
  let (text, c) ← block? s.indents.head? s.cursor
  some (((s.emit (.scalar (String.ofList text) style)).moveTo c).allow true)

def quoted (s : Scan) : Option Scan := do
  let s ← s.savePlace
  let (text, c) ← quoted? s.cursor
  some (((s.emit (.scalar (String.ofList text) .quoted)).moveTo c).allow false)

/-- A plain scalar. A key may begin behind it if it ends its line. -/
def plain (s : Scan) : Option Scan := do
  let s ← s.savePlace
  let indent := (s.indents.head?.map (· + 1)).getD 0
  let (text, endsLine, c) ← plain? s.inFlow indent s.cursor
  some (((s.emit (.scalar (String.ofList text) .plain)).moveTo c).allow endsLine)

/-- Whether a plain scalar may begin here. -/
def beginsPlain (s : Scan) : Bool :=
  match s.cursor.rest with
  | [] => false
  | c :: rest =>
    !(isWhite c || "-?:,[]\x7b\x7d#&*!|>'\"%@".toList.contains c || c.toNat = 96) ||
      (c = '-' && !rest.head?.any isBlank) ||
      (!s.inFlow && (c = '?' || c = ':') && !atWordEnd rest)

/-! ## All tokens -/

/-- Reads the next token; there is one. -/
def next (s : Scan) : Option Scan :=
  let c := s.cursor
  let ch := c.rest.head?.getD ' '
  let alone := atWordEnd c.rest.tail
  if c.column = 0 && ch = '%' then s.directive
  else if c.startsWith ['-', '-', '-'] then do some ((← s.topLevel).take 3 .documentStart)
  else if c.startsWith ['.', '.', '.'] then do some ((← s.topLevel).take 3 .documentEnd)
  else if ch = '[' then s.openFlow .sequenceStart
  else if ch = '\x7b' then s.openFlow .mappingStart
  else if ch = ']' then s.closeFlow .sequenceEnd
  else if ch = '\x7d' then s.closeFlow .mappingEnd
  else if ch = ',' then s.comma
  else if ch = '-' && alone then s.dash
  else if ch = '?' && (s.inFlow || alone) then s.keyMark
  else if ch = ':' && (s.inFlow || alone) then s.colon
  else if ch = '*' then s.named .alias
  else if ch = '&' then s.named .anchor
  else if ch = '!' then s.tagged
  else if ch = '|' && !s.inFlow then s.block .literal
  else if ch = '>' && !s.inFlow then s.block .folded
  else if ch = '\'' || ch = '"' then s.quoted
  else if s.beginsPlain then s.plain
  else none

/-- Reads all tokens; each takes a character at least. -/
def all : Nat → Scan → Option (List Token)
  | 0, _ => none
  | fuel + 1, s => do
    let s ← (s.toNext (s.cursor.rest.length + 1)).dropPastPlaces
    let s := s.closeBlocks (some s.cursor.column)
    if s.cursor.rest.isEmpty then
      let s ← (s.closeBlocks none).dropPlace
      some s.tokens.reverse
    else all fuel (← s.next)

end Scan

/-- The tokens of a text, which may begin with a byte order mark. -/
def tokens? (text : List Char) : Option (List Token) :=
  if !text.all isPrintable then none
  else
    let bare := match text with
      | c :: rest => if c.toNat = 0xFEFF then rest else text
      | [] => []
    Scan.all (bare.length + 2) (.start bare)

end RowIdentity.Yaml
