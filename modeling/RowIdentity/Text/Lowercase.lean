import RowIdentity.Text.CaseTable

/-!
# Lowercase

The full Unicode lowercase of a text. Two characters are special: `İ` becomes `i` and a combining
dot above, and a capital sigma becomes a final sigma at the end of a word, which is where a cased
letter stands before it and none after it, case-ignorable characters not counted.

* `ofChar` — the lowercase of a character by itself
* `ofText` — the lowercase of a text
-/

namespace RowIdentity.Lowercase

open CaseTable

/-- Whether a run of the table covers a character. -/
def covers (c : Char) (r : Run) : Bool :=
  r.first ≤ c.toNat && c.toNat ≤ r.last && (c.toNat - r.first) % r.step = 0

/-- The lowercase of a character by itself. -/
def ofChar (c : Char) : List Char :=
  if c.toNat < 128 then [c.toLower]
  else if c = 'İ' then ['i', '\u0307']
  else match lowercaseRuns.find? (covers c) with
    | some r => [Char.ofNat (c.toNat + r.shift).toNat]
    | none => [c]

/-- Whether the first character that is not case-ignorable is cased. -/
def startsCased (cs : List Char) : Bool :=
  match cs.dropWhile isCaseIgnorable with
  | c :: _ => isCased c
  | [] => false

/-- The lowercase of the characters of a text; `before` holds those passed, nearest first. -/
def go (before : List Char) : List Char → List Char
  | [] => []
  | c :: rest =>
    (if c = 'Σ' then [if startsCased before && !startsCased rest then 'ς' else 'σ'] else ofChar c)
      ++ go (c :: before) rest

def ofText (s : String) : String := String.ofList (go [] s.toList)

end RowIdentity.Lowercase
