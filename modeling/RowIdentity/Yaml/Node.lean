import RowIdentity.Yaml.Token

/-!
# Nodes of a YAML text

* `Node` — a scalar, a sequence or a mapping; an alias is the node that it names
* `document?` — the node of a text with one document
-/

namespace RowIdentity.Yaml

inductive Node where
  | scalar (text : String) (style : ScalarStyle) (tag : Option String)
  | sequence (items : List Node)
  | mapping (pairs : List (Node × Node))
  /-- An alias inside of the node that it names. -/
  | cycle
deriving Repr, Inhabited

/-- A node that is left out. -/
def Node.empty : Node := .scalar "" .plain none

/-- What is known before a node: the handles of tags and the anchored nodes, the last one first. -/
structure Scope where
  handles : List (String × String)
  anchors : List (String × Node)

/-- What reading a node gives: the node, the anchors behind it and the tokens that are left. -/
abbrev Parsed (α : Type) := α × List (String × Node) × List Token

/-- The full text of a tag. -/
def Scope.tag? (scope : Scope) (handle suffix : String) : Option String :=
  if handle = "" then some suffix
  else
    let known := scope.handles ++ [("!", "!"), ("!!", "tag:yaml.org,2002:")]
    (known.find? (·.1 = handle)).map (·.2 ++ suffix)

/-- The anchor and the tag before a node, in either order. -/
def properties? (scope : Scope) :
    List Token → Option (Option String × Option String × List Token)
  | .anchor a :: .tag h t :: rest | .tag h t :: .anchor a :: rest => do
    some (some a, some (← scope.tag? h t), rest)
  | .anchor a :: rest => some (some a, none, rest)
  | .tag h t :: rest => do some (none, some (← scope.tag? h t), rest)
  | rest => some (none, none, rest)

/-- Gives a node its anchor. -/
def anchored (anchor : Option String) (n : Node) (anchors : List (String × Node)) :
    List (String × Node) :=
  match anchor with
  | some a => (a, n) :: anchors
  | none => anchors

mutual

/-- Reads a node. A block collection is allowed in some places only, and a sequence without
indentation of its own only as a key or a value. -/
def node? (handles : List (String × String)) (block flush : Bool) :
    Nat → List (String × Node) → List Token → Option (Parsed Node)
  | 0, _, _ => none
  | fuel + 1, anchors, toks =>
    match toks with
    | .alias name :: rest => do
      let (_, n) ← anchors.find? (·.1 = name)
      some (n, anchors, rest)
    | _ => do
      let (anchor, tag, rest) ← properties? ⟨handles, anchors⟩ toks
      let inner := anchored anchor .cycle anchors
      let collection (read : Option (Parsed Node)) : Option (Parsed Node) := do
        let (n, inner, rest) ← read
        some (n, anchored anchor n inner, rest)
      match rest with
      | .entry :: _ =>
        if flush then collection (flushItems? handles fuel [] inner rest)
        else if anchor.isSome || tag.isSome then
          let n := Node.scalar "" .plain tag
          some (n, anchored anchor n anchors, rest)
        else none
      | .scalar text style :: rest =>
        let n := Node.scalar text style tag
        some (n, anchored anchor n anchors, rest)
      | .sequenceStart :: rest => collection (flowItems? handles true fuel [] inner rest)
      | .mappingStart :: rest => collection (flowPairs? handles true fuel [] inner rest)
      | rest =>
        match block, rest with
        | true, .blockSequence :: rest => collection (blockItems? handles fuel [] inner rest)
        | true, .blockMapping :: rest => collection (blockPairs? handles fuel [] inner rest)
        | _, rest =>
          if anchor.isSome || tag.isSome then
            let n := Node.scalar "" .plain tag
            some (n, anchored anchor n anchors, rest)
          else none

/-- The items of a block sequence. -/
def blockItems? (handles : List (String × String)) :
    Nat → List Node → List (String × Node) → List Token → Option (Parsed Node)
  | 0, _, _, _ => none
  | fuel + 1, done, anchors, toks =>
    match toks with
    | .blockEnd :: rest => some (.sequence done.reverse, anchors, rest)
    | .entry :: rest =>
      match rest with
      | .entry :: _ | .blockEnd :: _ => blockItems? handles fuel (.empty :: done) anchors rest
      | _ => do
        let (n, anchors, rest) ← node? handles true false fuel anchors rest
        blockItems? handles fuel (n :: done) anchors rest
    | _ => none

/-- The items of a sequence without indentation of its own. -/
def flushItems? (handles : List (String × String)) :
    Nat → List Node → List (String × Node) → List Token → Option (Parsed Node)
  | 0, _, _, _ => none
  | fuel + 1, done, anchors, toks =>
    match toks with
    | .entry :: rest =>
      match rest with
      | .entry :: _ | .key :: _ | .value :: _ | .blockEnd :: _ =>
        flushItems? handles fuel (.empty :: done) anchors rest
      | _ => do
        let (n, anchors, rest) ← node? handles true false fuel anchors rest
        flushItems? handles fuel (n :: done) anchors rest
    | rest => some (.sequence done.reverse, anchors, rest)

/-- The node behind a key or value mark of a block mapping. -/
def blockPart? (handles : List (String × String)) :
    Nat → List (String × Node) → List Token → Option (Parsed Node)
  | 0, _, _ => none
  | fuel + 1, anchors, toks =>
    match toks with
    | .key :: _ | .value :: _ | .blockEnd :: _ => some (.empty, anchors, toks)
    | _ => node? handles true true fuel anchors toks

/-- The pairs of a block mapping. -/
def blockPairs? (handles : List (String × String)) :
    Nat → List (Node × Node) → List (String × Node) → List Token → Option (Parsed Node)
  | 0, _, _, _ => none
  | fuel + 1, done, anchors, toks =>
    match toks with
    | .blockEnd :: rest => some (.mapping done.reverse, anchors, rest)
    | .key :: rest => do
      let (k, anchors, rest) ← blockPart? handles fuel anchors rest
      match rest with
      | .value :: rest =>
        let (v, anchors, rest) ← blockPart? handles fuel anchors rest
        blockPairs? handles fuel ((k, v) :: done) anchors rest
      | _ => blockPairs? handles fuel ((k, .empty) :: done) anchors rest
    | _ => none

/-- The items of a sequence in brackets. An item with a key is a mapping of one pair. -/
def flowItems? (handles : List (String × String)) (first : Bool) :
    Nat → List Node → List (String × Node) → List Token → Option (Parsed Node)
  | 0, _, _, _ => none
  | fuel + 1, done, anchors, toks =>
    match toks with
    | .sequenceEnd :: rest => some (.sequence done.reverse, anchors, rest)
    | _ => do
      let toks ← match first, toks with
        | true, toks => some toks
        | false, .comma :: rest => some rest
        | false, _ => none
      match toks with
      | .sequenceEnd :: rest => some (.sequence done.reverse, anchors, rest)
      | .key :: rest =>
        let (k, anchors, rest) ← match rest with
          | .value :: _ | .comma :: _ | .sequenceEnd :: _ => some (.empty, anchors, rest.tail)
          | _ => node? handles false false fuel anchors rest
        let (v, anchors, rest) ← match rest with
          | .value :: .comma :: rest => some (.empty, anchors, .comma :: rest)
          | .value :: .sequenceEnd :: rest => some (.empty, anchors, .sequenceEnd :: rest)
          | .value :: rest => node? handles false false fuel anchors rest
          | rest => some (.empty, anchors, rest)
        flowItems? handles false fuel (.mapping [(k, v)] :: done) anchors rest
      | _ =>
        let (n, anchors, rest) ← node? handles false false fuel anchors toks
        flowItems? handles false fuel (n :: done) anchors rest

/-- The pairs of a mapping in braces. -/
def flowPairs? (handles : List (String × String)) (first : Bool) :
    Nat → List (Node × Node) → List (String × Node) → List Token → Option (Parsed Node)
  | 0, _, _, _ => none
  | fuel + 1, done, anchors, toks =>
    match toks with
    | .mappingEnd :: rest => some (.mapping done.reverse, anchors, rest)
    | _ => do
      let toks ← match first, toks with
        | true, toks => some toks
        | false, .comma :: rest => some rest
        | false, _ => none
      match toks with
      | .mappingEnd :: rest => some (.mapping done.reverse, anchors, rest)
      | .key :: rest =>
        let (k, anchors, rest) ← match rest with
          | .value :: _ | .comma :: _ | .mappingEnd :: _ => some (.empty, anchors, rest)
          | _ => node? handles false false fuel anchors rest
        let (v, anchors, rest) ← match rest with
          | .value :: .comma :: rest => some (.empty, anchors, .comma :: rest)
          | .value :: .mappingEnd :: rest => some (.empty, anchors, .mappingEnd :: rest)
          | .value :: rest => node? handles false false fuel anchors rest
          | rest => some (.empty, anchors, rest)
        flowPairs? handles false fuel ((k, v) :: done) anchors rest
      | _ =>
        let (k, anchors, rest) ← node? handles false false fuel anchors toks
        flowPairs? handles false fuel ((k, .empty) :: done) anchors rest

end

/-! ## Documents -/

/-- The directives before a document: at most one version, which must be 1.1 or 1.2, and handles of
tags, each declared once. -/
def directives? : Bool → List (String × String) → List Token →
    Option (Bool × List (String × String) × List Token)
  | seen, handles, .version major minor :: rest =>
    if seen || major ≠ 1 || (minor ≠ 1 && minor ≠ 2) then none
    else directives? true handles rest
  | seen, handles, .tagHandle h uri :: rest =>
    if handles.any (·.1 = h) then none else directives? seen ((h, uri) :: handles) rest
  | seen, handles, rest => some (seen || !handles.isEmpty, handles, rest)

/-- The content of a document; it may be left out. -/
def content? (handles : List (String × String)) (fuel : Nat) (isMarked : Bool)
    (toks : List Token) : Option (Node × List Token) :=
  let read := (node? handles true false fuel [] toks).map fun r => (r.1, r.2.2)
  match toks with
  | [] | .documentStart :: _ | .documentEnd :: _ | .version .. :: _ | .tagHandle .. :: _ =>
    if isMarked then some (.empty, toks) else read
  | _ => read

/-- The node of a text with one document; a text without any stands for an empty node. -/
def document? (text : List Char) : Option Node := do
  let toks ← tokens? text
  let fuel := 3 * toks.length + 4
  if toks.isEmpty then some .empty
  else
    let (isDirected, handles, rest) ← directives? false [] toks
    let (n, rest) ← match isDirected, rest with
      | _, .documentStart :: rest => content? handles fuel true rest
      | true, _ => none
      | false, rest => content? handles fuel false rest
    if rest.all (· == .documentEnd) then some n else none

end RowIdentity.Yaml
