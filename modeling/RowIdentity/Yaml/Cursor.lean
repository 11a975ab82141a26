/-!
# A place in a YAML text

* `Cursor` — what is left of a text, and where it stands
* `Gap` — blanks and line breaks between two words; `Gap.folded` is what a scalar keeps of them
* `Cursor.gap?` — reads a gap
-/

namespace RowIdentity.Yaml

/-- A line break: CR, LF, NEL, LS or PS. -/
def isBreak (c : Char) : Bool :=
  c = '\n' || c = '\r' || c.toNat = 0x85 || c.toNat = 0x2028 || c.toNat = 0x2029

/-- A space or a tab. -/
def isBlank (c : Char) : Bool := c = ' ' || c = '\t'

/-- A blank or a line break. -/
def isWhite (c : Char) : Bool := isBlank c || isBreak c

/-- A letter, a digit, `-` or `_`. -/
def isNameChar (c : Char) : Bool := c.isAlphanum || c = '-' || c = '_'

/-- Characters that may stand in a text at all. -/
def isPrintable (c : Char) : Bool :=
  let n := c.toNat
  n = 9 || n = 10 || n = 13 || (32 ≤ n && n ≤ 126) || n = 0x85 || (0xA0 ≤ n && n ≤ 0xFFFD) ||
    0x10000 ≤ n

/-- Whether a word ends here: at a blank, a line break or the end. -/
def atWordEnd : List Char → Bool
  | [] => true
  | c :: _ => isWhite c

/-- Whether a line ends here. -/
def atLineEnd : List Char → Bool
  | [] => true
  | c :: _ => isBreak c

/-- What is left of a text, with the number of characters before it, the line and the column. -/
structure Cursor where
  rest : List Char
  index : Nat
  line : Nat
  column : Nat

namespace Cursor

def start (text : List Char) : Cursor := ⟨text, 0, 0, 0⟩

/-- Goes past some characters of a line. -/
def skip (c : Cursor) (n : Nat) : Cursor :=
  ⟨c.rest.drop n, c.index + n, c.line, c.column + n⟩

/-- Goes past the characters of a line that satisfy a test. -/
def skipWhile (c : Cursor) (p : Char → Bool) : Cursor := c.skip (c.rest.takeWhile p).length

/-- Goes past a line break; CR LF is one. -/
def skipBreak (c : Cursor) : Cursor :=
  match c.rest with
  | '\r' :: '\n' :: rest => ⟨rest, c.index + 2, c.line + 1, 0⟩
  | _ :: rest => ⟨rest, c.index + 1, c.line + 1, 0⟩
  | [] => c

/-- What a scalar keeps of a line break: LS and PS as they are, a newline for all others. -/
def keptBreak (c : Char) : Char := if c.toNat = 0x2028 || c.toNat = 0x2029 then c else '\n'

/-- Whether a line begins here with three given characters that stand by themselves. -/
def startsWith (c : Cursor) (mark : List Char) : Bool :=
  c.column = 0 && mark.isPrefixOf c.rest && atWordEnd (c.rest.drop mark.length)

/-- Whether a document begins or ends here. -/
def atMarker (c : Cursor) : Bool := c.startsWith ['-', '-', '-'] || c.startsWith ['.', '.', '.']

end Cursor

/-- Blanks and line breaks between two words. -/
structure Gap where
  /-- The blanks before the first line break. -/
  blanks : List Char
  breaks : List Char

namespace Gap

def none : Gap := ⟨[], []⟩

/-- Whether a gap goes on to another line. -/
def isMultiline (g : Gap) : Bool := !g.breaks.isEmpty

/-- What a scalar keeps of a gap: a single newline is a space, and of several the first goes. -/
def folded (g : Gap) : List Char :=
  match g.breaks with
  | [] => g.blanks
  | ['\n'] => [' ']
  | '\n' :: more => more
  | breaks => breaks

end Gap

/-- Reads a gap. Past a line break no tab may stand left of the given column. -/
def Cursor.gap? (indent : Nat) : Nat → Gap → Cursor → Option (Gap × Cursor)
  | 0, g, c => some (g, c)
  | fuel + 1, g, c =>
    match c.rest with
    | [] => some (g, c)
    | ch :: _ =>
      if isBreak ch then
        gap? indent fuel { g with breaks := g.breaks ++ [keptBreak ch] } c.skipBreak
      else if !isBlank ch then some (g, c)
      else if !g.isMultiline then gap? indent fuel { g with blanks := g.blanks ++ [ch] } (c.skip 1)
      else if ch = '\t' && c.column < indent then Option.none
      else gap? indent fuel g (c.skip 1)

end RowIdentity.Yaml
