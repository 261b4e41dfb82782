import StoryScript.Script.Basic
import StoryScript.Text.Blank

/-!
# Parsers of scripts

A parser turns the text of a script into its tree, or says why it cannot. The outline is a small
parser for scripts that consist of labels and spoken lines.

## Main definitions

* `Parsed`, `Parser` — what a parser gives.
* `outline` — labels and the actions below them, told apart by their indent.
-/

namespace StoryScript

/-- A tree with the number of lines it was parsed from. -/
structure Parsed where
  tree : Tree
  lineCount : Nat
deriving Repr, Inhabited

abbrev Parser := String → Except String Parsed

/-- A line in front of a line feed, without the carriage return that may belong to it. -/
def dropReturn (cs : List Char) : List Char :=
  if cs.getLast? = some '\r' then cs.dropLast else cs

/-- The lines of a text without their endings. A text that ends with a line feed has no line behind
it, and a carriage return without a line feed ends no line. -/
def plainLines (s : String) : List String :=
  let pieces := s.toList.splitOn '\n'
  let last := pieces.getLast?.getD []
  (pieces.dropLast.map dropReturn ++ if last.isEmpty then [] else [last]).map .ofList

namespace Outline

/-- A label whose end is not known yet; the ranges of its actions come last first. -/
structure OpenLabel where
  name : String
  startLine : Nat
  actions : List (Nat × Nat) := []

/-- How far an outline has been read; the labels that are complete come last first. -/
structure State where
  labels : List Node := []
  current : Option OpenLabel := none
  /-- The line of a sidecar that waits for its action. -/
  sidecar : Option Nat := none

def labelName? (line : List Char) : Option String :=
  let opening := "label ".toList
  let rest := line.drop opening.length
  if opening.isPrefixOf line && rest.getLast? == some ':' then some (.ofList rest.dropLast)
  else none

/-- Whether a line stands exactly four spaces in, as actions do. -/
def opensAction (line : List Char) : Bool :=
  "    ".toList.isPrefixOf line && !(line.drop 4).head?.any Text.isSpace

/-- The node of a label that ends with line `last`. -/
def OpenLabel.close (l : OpenLabel) (last : Nat) : Node :=
  let actions := l.actions.reverse.zipIdx.map fun ((first, last), i) =>
    ⟨s!"{l.name}-{i}", .action, "say", first, last, .leaf⟩
  ⟨l.name, .labelBlock, l.name, l.startLine, last, .sequence actions⟩

/-- Completes the label that is open, with its last line. -/
def State.close (s : State) (last : Nat) : List Node :=
  match s.current with
  | none => s.labels
  | some l => l.close last :: s.labels

def State.read (s : State) (number : Nat) (line : String) : State :=
  match labelName? line.toList with
  | some name => ⟨s.close (number - 1), some { name, startLine := number }, none⟩
  | none =>
    match s.current with
    | none => s
    | some l =>
      if Text.isBlank line then s
      else if "# @node".toList.isPrefixOf (Text.trimStart line).toList then
        { s with sidecar := some number }
      else
        match l.actions, opensAction line.toList with
        | (first, _) :: rest, false =>
          { s with current := some { l with actions := (first, number) :: rest } }
        | actions, _ =>
          { s with
            current := some { l with actions := (s.sidecar.getD number, number) :: actions }
            sidecar := none }

end Outline

/-- Parses labels and the actions below them. -/
def outline : Parser := fun source =>
  let lines := plainLines source
  let state := lines.zipIdx.foldl (fun s (line, number) => s.read number line) ({} : Outline.State)
  .ok ⟨⟨(state.close (lines.length - 1)).reverse⟩, lines.length⟩

end StoryScript
