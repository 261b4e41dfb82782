import StoryScript.Yaml.Scalar

/-!
# Reading YAML

A reader for texts that hold a single document of scalars, sequences and mappings, in block or flow
style, with comments and document markers. Anchors, aliases, tags and keys that are not scalars are
not read.

## Main definitions

* `Yaml.flowNode` — a node in flow style.
* `Yaml.blockNode` — a node in block style, told by its indent.
* `Yaml.ofString?` — the document of a text, `none` if the text cannot be read.
-/

namespace StoryScript.Yaml

/-- The node that stands where nothing is written. -/
def empty : Yaml :=
  .plain ""

/-! ## Flow style -/

/-- Goes on to the next character that counts, over blanks, comments and line breaks. -/
def skipSpace (c : Cursor) : Cursor :=
  go c.line c.below
where
  go (line : List Char) : List (List Char) → Cursor
    | [] => ⟨if isDone line then [] else skipBlanks line, []⟩
    | next :: below => if isDone line then go next below else ⟨skipBlanks line, next :: below⟩

mutual

def flowNode : Nat → Cursor → Option (Yaml × Cursor)
  | 0, _ => none
  | fuel + 1, c =>
    let c := skipSpace c
    match c.line with
    | '[' :: rest => flowItems fuel [] ⟨rest, c.below⟩
    | '\x7b' :: rest => flowEntries fuel [] ⟨rest, c.below⟩
    | '"' :: _ => quoted? c
    | '\'' :: _ => quoted? c
    | _ => plain? true (-1) c

/-- Reads what may stand behind a key: nothing, or a colon and a value. -/
def flowValue : Nat → Cursor → Option (Yaml × Cursor)
  | 0, _ => none
  | fuel + 1, c =>
    let c := skipSpace c
    match c.line with
    | ':' :: rest =>
      let c := skipSpace ⟨rest, c.below⟩
      if c.line.head?.any fun a => a == ',' || a == ']' || a == '\x7d' then some (empty, c)
      else flowNode fuel c
    | _ => some (empty, c)

/-- Reads the items of a sequence up to its closing bracket. -/
def flowItems : Nat → List Yaml → Cursor → Option (Yaml × Cursor)
  | 0, _, _ => none
  | fuel + 1, done, c =>
    let c := skipSpace c
    match c.line with
    | ']' :: rest => some (.sequence done.reverse, ⟨rest, c.below⟩)
    | _ => do
      let (item, c) ← flowNode fuel c
      let c := skipSpace c
      let (item, c) ←
        match c.line with
        | ':' :: _ => do
          let (value, c) ← flowValue fuel c
          pure (Yaml.mapping [(item, value)], skipSpace c)
        | _ => some (item, c)
      match c.line with
      | ',' :: rest => flowItems fuel (item :: done) ⟨rest, c.below⟩
      | ']' :: rest => some (.sequence (item :: done).reverse, ⟨rest, c.below⟩)
      | _ => none

/-- Reads the entries of a mapping up to its closing brace. -/
def flowEntries : Nat → List (Yaml × Yaml) → Cursor → Option (Yaml × Cursor)
  | 0, _, _ => none
  | fuel + 1, done, c =>
    let c := skipSpace c
    match c.line with
    | '\x7d' :: rest => some (.mapping done.reverse, ⟨rest, c.below⟩)
    | _ => do
      let (key, c) ← flowNode fuel c
      let (value, c) ← flowValue fuel c
      let c := skipSpace c
      match c.line with
      | ',' :: rest => flowEntries fuel ((key, value) :: done) ⟨rest, c.below⟩
      | '\x7d' :: rest => some (.mapping ((key, value) :: done).reverse, ⟨rest, c.below⟩)
      | _ => none

end

/-! ## Block style -/

/-- What happens to the line breaks at the end of a block scalar. -/
inductive Chomp where
  | strip
  | clip
  | keep
deriving DecidableEq

/-- The lines of a block scalar that stand deeper than `parent`, and the lines behind it. -/
def blockLines (parent : Int) (indent : Option Nat) (lines : List (List Char)) :
    List (List Char) × List (List Char) :=
  let indent := indent.getD (((lines.find? (!·.all isBlank)).map indentOf).getD 0)
  let inside (l : List Char) : Bool := l.all (· == ' ') || (indent ≤ indentOf l && parent < indent)
  ((lines.takeWhile inside).map (·.drop indent), lines.dropWhile inside)

def foldLines : List (List Char) → List Char
  | [] => []
  | [l] => l
  | l :: [] :: rest => l ++ ['\n'] ++ foldLines rest
  | l :: next :: rest => l ++ [' '] ++ foldLines (next :: rest)

/-- Reads a block scalar behind its `|` or `>`. -/
def blockScalar? (folded : Bool) (parent : Int) (header : List Char) (below : List (List Char)) :
    Option (Yaml × List (List Char)) := do
  let marks := header.takeWhile (!isBlank ·)
  if !isDone (header.drop marks.length) then none
  let digit := marks.find? fun c => '1' ≤ c && c ≤ '9'
  let sign := marks.find? fun c => c == '-' || c == '+'
  if marks.length ≠ digit.toList.length + sign.toList.length then none
  let indent := digit.map fun c => (parent + 1).toNat + (c.toNat - 48) - if parent < 0 then 0 else 1
  let chomp : Chomp :=
    match sign with
    | some '-' => .strip
    | some _ => .keep
    | none => .clip
  let (lines, rest) := blockLines parent (indent.map fun n => max n 1) below
  let text := (lines.reverse.dropWhile (·.isEmpty)).reverse
  let body := if folded then foldLines text else ['\n'].intercalate text
  let ending :=
    match chomp with
    | .strip => []
    | .clip => if text.isEmpty then [] else ['\n']
    | .keep => List.replicate (lines.length - text.length + if text.isEmpty then 0 else 1) '\n'
  return (.quoted (.ofList (body ++ ending)), rest)

/-- Reads a scalar or a flow collection that begins on this line and ends with some line. -/
def inlineNode (parent : Int) (c : Cursor) : Option (Yaml × List (List Char)) := do
  let line := skipBlanks c.line
  match line with
  | '|' :: header => blockScalar? false parent header c.below
  | '>' :: header => blockScalar? true parent header c.below
  | first :: _ =>
    let c : Cursor := ⟨line, c.below⟩
    let (node, c) ←
      if first == '[' || first == '\x7b' then flowNode c.size c
      else if first == '"' || first == '\'' then quoted? c
      else plain? false parent c
    if isDone c.line then some (node, c.below) else none
  | [] => none

/-- The lines from the first one that is not blank or a comment. -/
def skipEmptyLines (lines : List (List Char)) : List (List Char) :=
  lines.dropWhile isDone

def isItem (content : List Char) : Bool :=
  match content with
  | '-' :: rest => atGap rest
  | _ => false

mutual

/-- Reads the node below `parent`; where nothing stands deeper the node is empty. -/
def blockNode : Nat → Int → List (List Char) → Option (Yaml × List (List Char))
  | 0, _, _ => none
  | fuel + 1, parent, lines =>
    match skipEmptyLines lines with
    | [] => some (empty, [])
    | line :: below =>
      let indent := indentOf line
      let content := line.drop indent
      if isSeparator line || indent ≤ parent then some (empty, line :: below)
      else if content.head?.any isBlank then none
      else if isItem content then blockItems fuel indent [] (line :: below)
      else if (key? content).isSome then blockEntries fuel indent [] (line :: below)
      else inlineNode parent ⟨content, below⟩

/-- Reads the items of a sequence at a given indent. -/
def blockItems : Nat → Nat → List Yaml → List (List Char) → Option (Yaml × List (List Char))
  | 0, _, _, _ => none
  | fuel + 1, indent, done, lines =>
    match skipEmptyLines lines with
    | [] => some (.sequence done.reverse, [])
    | line :: below =>
      let content := line.drop indent
      if isSeparator line || indentOf line != indent || !isItem content then
        some (.sequence done.reverse, line :: below)
      else do
        -- the item is read as if its dash were a space
        let item := List.replicate (indent + 1) ' ' ++ content.drop 1
        let (node, rest) ← blockNode fuel indent (item :: below)
        blockItems fuel indent (node :: done) rest

/-- Reads the entries of a mapping at a given indent. -/
def blockEntries : Nat → Nat → List (Yaml × Yaml) → List (List Char) →
    Option (Yaml × List (List Char))
  | 0, _, _, _ => none
  | fuel + 1, indent, done, lines =>
    match skipEmptyLines lines with
    | [] => some (.mapping done.reverse, [])
    | line :: below =>
      if isSeparator line || indentOf line < indent then some (.mapping done.reverse, line :: below)
      else if indentOf line ≠ indent then none
      else do
        let (key, rest) ← key? (line.drop indent)
        let (value, rest) ←
          if isDone rest then
            -- a sequence may stand right under its key
            match skipEmptyLines below with
            | [] => some (empty, [])
            | next :: more =>
              if indentOf next = indent && isItem (next.drop indent) then
                blockItems fuel indent [] (next :: more)
              else blockNode fuel indent (next :: more)
          else inlineNode indent ⟨rest, below⟩
        blockEntries fuel indent ((key, value) :: done) rest

end

/-! ## Documents -/

def linesOf (cs : List Char) : List (List Char) :=
  go [] cs
where
  go (line : List Char) : List Char → List (List Char)
    | [] => [line.reverse]
    | '\r' :: '\n' :: rest => line.reverse :: go [] rest
    | c :: rest =>
      if c == '\n' || c == '\r' || c.toNat == 0x85 || c.toNat == 0x2028 || c.toNat == 0x2029 then
        line.reverse :: go [] rest
      else go (c :: line) rest

def isAllowed (c : Char) : Bool :=
  let n := c.toNat
  n == 9 || n == 10 || n == 13 || (0x20 ≤ n && n ≤ 0x7E) || n == 0x85 ||
    (0xA0 ≤ n && n ≤ 0xFFFD && n != 0xFEFF) || 0x10000 ≤ n

/-- The node of a document that begins behind its marker, and the lines behind it. -/
def markedDocument (fuel : Nat) (rest : List Char) (below : List (List Char)) :
    Option (Yaml × List (List Char)) :=
  let content := skipBlanks rest
  if isDone rest then blockNode fuel (-1) below
  else if isItem content || (key? content).isSome then none
  else inlineNode (-1) ⟨content, below⟩

def isLast (lines : List (List Char)) : Bool :=
  match skipEmptyLines lines with
  | [] => true
  | line :: below =>
    isMarker ['.', '.', '.'] line && isDone (line.drop 3) &&
      (below.dropWhile fun l => isDone l || isMarker ['.', '.', '.'] l).isEmpty

/-- Reads a text that holds at most one document; an empty text holds the empty node. -/
def ofString? (s : String) : Option Yaml := do
  let cs := match s.toList with
    | '\uFEFF' :: rest => rest
    | cs => cs
  if !cs.all isAllowed then none
  let fuel := 2 * cs.length + 10
  let lines := (linesOf cs).dropWhile fun l => isDone l || isMarker ['.', '.', '.'] l
  let (node, rest) ←
    match lines with
    | [] => some (empty, [])
    | line :: below =>
      if isMarker ['-', '-', '-'] line then markedDocument fuel (line.drop 3) below
      else blockNode fuel (-1) (line :: below)
  if isLast rest then some node else none

end StoryScript.Yaml
