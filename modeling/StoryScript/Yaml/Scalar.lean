import StoryScript.Decimal.Digits

/-!
# Scalars of YAML

A scalar is plain or quoted. A scalar may go on over several lines, and then a line break counts as
a space and `n` blank lines as `n` line breaks.

## Main definitions

* `Yaml` — a YAML node.
* `Cursor` — what is left of a text: the rest of a line and the lines below it.
* `plainKey?`, `plain`, `singleQuoted`, `doubleQuoted` — reading scalars.
-/

namespace StoryScript

/-- A YAML node. An empty node is an empty plain scalar. -/
inductive Yaml where
  | plain (text : String)
  | quoted (text : String)
  | sequence (items : List Yaml)
  | mapping (entries : List (Yaml × Yaml))
deriving Repr, Inhabited

namespace Yaml

/-- What is left of a text: the rest of a line, and the lines below. -/
structure Cursor where
  line : List Char
  below : List (List Char)
deriving Repr, Inhabited

def isBlank (c : Char) : Bool :=
  c == ' ' || c == '\t'

def skipBlanks (cs : List Char) : List Char :=
  cs.dropWhile isBlank

def trimEnd (cs : List Char) : List Char :=
  (cs.reverse.dropWhile isBlank).reverse

/-- Whether a blank or the end of the line comes next. -/
def atGap (cs : List Char) : Bool :=
  cs.head?.all isBlank

/-- Whether nothing but a comment is left of a line. -/
def isDone (cs : List Char) : Bool :=
  (skipBlanks cs).head?.all (· == '#')

def isMarker (mark line : List Char) : Bool :=
  mark.isPrefixOf line && atGap (line.drop mark.length)

def isSeparator (line : List Char) : Bool :=
  isMarker ['-', '-', '-'] line || isMarker ['.', '.', '.'] line

def indentOf (line : List Char) : Nat :=
  (line.takeWhile (· == ' ')).length

/-- The characters that structure flow collections. -/
def isFlowIndicator (c : Char) : Bool :=
  c == ',' || c == '[' || c == ']' || c == '\x7b' || c == '\x7d'

/-! ## Plain scalars -/

def beginsPlain (inFlow : Bool) : List Char → Bool
  | [] => false
  | c :: rest =>
    if c == '-' then !atGap rest
    else if c == '?' || c == ':' then !inFlow && !atGap rest
    else !isBlank c && !isFlowIndicator c && !"#&*!|>'\"%@`".toList.contains c

def endsPlain (inFlow afterBlank : Bool) : List Char → Bool
  | [] => true
  | c :: rest =>
    if c == '#' then afterBlank
    else if c == ':' then atGap rest || (inFlow && rest.head?.any isFlowIndicator)
    else inFlow && isFlowIndicator c

/-- The part of a plain scalar on one line, and what follows it there. -/
def plainRun (inFlow afterBlank : Bool) : List Char → List Char × List Char
  | [] => ([], [])
  | c :: cs =>
    if endsPlain inFlow afterBlank (c :: cs) then ([], c :: cs)
    else
      let (run, rest) := plainRun inFlow (isBlank c) cs
      (c :: run, rest)

/-- The line on which a scalar goes on, and the number of blank lines before it. -/
def nextLine? (stop : List Char → Bool) (blankLines : Nat) :
    List (List Char) → Option (Nat × Cursor)
  | [] => none
  | line :: below =>
    if line.all isBlank then nextLine? stop (blankLines + 1) below
    else if isSeparator line || stop line then none
    else some (blankLines, ⟨skipBlanks line, below⟩)

def foldBreak (blankLines : Nat) : List Char :=
  if blankLines = 0 then [' '] else List.replicate blankLines '\n'

/-- Whether a plain scalar under the given indent does not go on with this line. -/
def stopsPlain (inFlow : Bool) (parent : Int) (line : List Char) : Bool :=
  endsPlain inFlow true (skipBlanks line) || (!inFlow && indentOf line ≤ parent)

def plainMore (inFlow : Bool) (parent : Int) : Nat → List Char → Cursor → List Char × Cursor
  | 0, text, c => (text, c)
  | fuel + 1, text, c =>
    if !(skipBlanks c.line).isEmpty then (text, c)
    else
      match nextLine? (stopsPlain inFlow parent) 0 c.below with
      | none => (text, c)
      | some (blankLines, next) =>
        let (run, rest) := plainRun inFlow true next.line
        plainMore inFlow parent fuel (text ++ foldBreak blankLines ++ trimEnd run)
          ⟨rest, next.below⟩

/-- Reads a plain scalar, which goes on below only deeper than `parent`. -/
def plain? (inFlow : Bool) (parent : Int) (c : Cursor) : Option (Yaml × Cursor) :=
  if beginsPlain inFlow c.line then
    let (run, rest) := plainRun inFlow false c.line
    let (text, c) := plainMore inFlow parent c.below.length (trimEnd run) ⟨rest, c.below⟩
    some (.plain (.ofList text), c)
  else none

/-! ## Quoted scalars -/

/-- Reads a single-quoted scalar behind its quote. A quote inside is written twice. -/
def singleQuoted : Nat → List Char → Cursor → Option (List Char × Cursor)
  | 0, _, _ => none
  | fuel + 1, text, c =>
    match c.line with
    | '\'' :: '\'' :: rest => singleQuoted fuel (text ++ ['\'']) ⟨rest, c.below⟩
    | '\'' :: rest => some (text, ⟨rest, c.below⟩)
    | a :: rest => singleQuoted fuel (text ++ [a]) ⟨rest, c.below⟩
    | [] => do
      let (blankLines, next) ← nextLine? (fun _ => false) 0 c.below
      singleQuoted fuel (trimEnd text ++ foldBreak blankLines) next

/-- The character with the given code point, if there is one. -/
def charOf? (n : Nat) : Option Char :=
  if n < 0xD800 ∨ (0xE000 ≤ n ∧ n < 0x110000) then some (Char.ofNat n) else none

/-- Reads a character given by `count` hexadecimal digits. -/
def hexChar (count : Nat) (cs : List Char) : Option (Char × List Char) := do
  if cs.length < count then none
  let n ← digitsInBase? 16 (cs.take count)
  return (← charOf? n, cs.drop count)

def escape? : List Char → Option (Char × List Char)
  | 'x' :: rest => hexChar 2 rest
  | 'u' :: rest => hexChar 4 rest
  | 'U' :: rest => hexChar 8 rest
  | c :: rest =>
    let known := [('0', 0), ('a', 7), ('b', 8), ('t', 9), ('\t', 9), ('n', 10), ('v', 11),
      ('f', 12), ('r', 13), ('e', 27), (' ', 32), ('"', 34), ('/', 47), ('\\', 92), ('N', 0x85),
      ('_', 0xA0), ('L', 0x2028), ('P', 0x2029)]
    (known.find? (·.1 == c)).map fun (_, n) => (Char.ofNat n, rest)
  | [] => none

/-- Reads a double-quoted scalar behind its quote. A backslash at the end of a line joins the next
line without a space. -/
def doubleQuoted : Nat → List Char → Cursor → Option (List Char × Cursor)
  | 0, _, _ => none
  | fuel + 1, text, c =>
    match c.line with
    | '"' :: rest => some (text, ⟨rest, c.below⟩)
    | ['\\'] => do
      let (blankLines, next) ← nextLine? (fun _ => false) 0 c.below
      doubleQuoted fuel (text ++ List.replicate blankLines '\n') next
    | '\\' :: rest => do
      let (a, rest) ← escape? rest
      doubleQuoted fuel (text ++ [a]) ⟨rest, c.below⟩
    | a :: rest => doubleQuoted fuel (text ++ [a]) ⟨rest, c.below⟩
    | [] => do
      let (blankLines, next) ← nextLine? (fun _ => false) 0 c.below
      doubleQuoted fuel (trimEnd text ++ foldBreak blankLines) next

/-- The number of steps that is enough for any scalar from here on. -/
def Cursor.size (c : Cursor) : Nat :=
  c.below.foldl (fun n l => n + l.length + 1) (c.line.length + 1)

def quoted? (c : Cursor) : Option (Yaml × Cursor) :=
  match c.line with
  | '\'' :: rest =>
    (singleQuoted c.size [] ⟨rest, c.below⟩).map fun (text, c) => (.quoted (.ofList text), c)
  | '"' :: rest =>
    (doubleQuoted c.size [] ⟨rest, c.below⟩).map fun (text, c) => (.quoted (.ofList text), c)
  | _ => none

/-- Reads the key of an entry on one line: the text behind its colon comes second. -/
def key? (line : List Char) : Option (Yaml × List Char) := do
  let (key, c) ←
    match quoted? ⟨line, []⟩ with
    | some found => some found
    | none =>
      if beginsPlain false line then
        let (run, rest) := plainRun false false line
        some (.plain (.ofList (trimEnd run)), ⟨rest, []⟩)
      else none
  match skipBlanks c.line with
  | ':' :: rest => if atGap rest then some (key, rest) else none
  | _ => none

end Yaml

end StoryScript
