import StoryScript.Text.Blank
import StoryScript.Text.Lines

/-!
# Base indent of an excerpt

An excerpt is edited without the indent that all its lines share. The indent is the leading run of
spaces and tabs of the first line that is not blank; taking it off is all or nothing, so an excerpt
whose lines disagree comes back untouched together with a description of the first line at fault.

## Main definitions

* `leadingIndent` — spaces and tabs in front of a line.
* `stripIndent`, `restoreIndent` — take the base indent off, put an indent in front.
* `IndentPolicy.permits` — whether an excerpt with a fault may be saved.
-/

namespace StoryScript.Text

def isIndentChar (c : Char) : Bool :=
  c == ' ' || c == '\t'

/-- The spaces and tabs in front of a line. -/
def leadingIndent (line : String) : String :=
  .ofList (line.toList.takeWhile isIndentChar)

/-- What was found out about the indent of an excerpt. -/
structure IndentInfo where
  indent : String := ""
  stripped : Bool := false
  error : Option String := none
deriving Repr, DecidableEq, Inhabited

/-- An excerpt without its base indent. -/
structure Stripped where
  info : IndentInfo
  text : String
deriving Repr, DecidableEq, Inhabited

/-- How a line can disagree with the base indent; lines are counted from one here. -/
inductive IndentFault where
  /-- The line has `found` characters of indent where the block has `base`. -/
  | shallow (line found base : Nat)
  /-- The indent is long enough but made of other characters. -/
  | mixed (line : Nat)
deriving Repr, DecidableEq

/-- The text shown for an excerpt whose lines disagree. -/
def IndentFault.message : IndentFault → String
  | .shallow line found base =>
    s!"line {line} is indented less than the block ({found} < {base} characters)"
  | .mixed line => s!"line {line} mixes tabs and spaces differently from the block indent"

/-- The fault of a single line, the `number`th of its excerpt, against the indent `base`. Blank
lines have none. -/
def indentFault? (base : String) (number : Nat) (line : String) : Option IndentFault :=
  if isBlank line then none
  else if (leadingIndent line).length < base.length then
    some (.shallow number (leadingIndent line).length base.length)
  else if base.toList.isPrefixOf line.toList then none
  else some (.mixed number)

/-- The first fault among `lines`, of which the first is the `number`th. -/
def firstFault? (base : String) (number : Nat) : List String → Option IndentFault
  | [] => none
  | line :: rest => indentFault? base number line <|> firstFault? base (number + 1) rest

/-- The indent of the first line that is not blank. -/
def baseIndent (lines : List String) : String :=
  match lines.find? (!isBlank ·) with
  | some line => leadingIndent line
  | none => ""

/-- Takes the base indent off every line that is not blank. When there is no indent, or some line
does not start with it, the text stays as it is. -/
def stripIndent (excerpt : String) : Stripped :=
  let lines := segments excerpt
  let base := baseIndent lines
  if base.isEmpty then ⟨{}, excerpt⟩
  else
    match firstFault? base 1 lines with
    | some fault => ⟨{ error := some fault.message }, excerpt⟩
    | none =>
      ⟨{ indent := base, stripped := true },
        unlines (lines.map fun line =>
          if isBlank line then line else .ofList (line.toList.drop base.length))⟩

/-- Puts `indent` in front of every line that is not blank. -/
def restoreIndent (text indent : String) : String :=
  unlines ((segments text).map fun line => if isBlank line then line else indent ++ line)

/-- What a save does when the indent of its excerpt is at fault. -/
inductive IndentPolicy where
  /-- Refuse, unless told to go ahead. -/
  | block
  /-- Save all the same. -/
  | warn
deriving Repr, DecidableEq, Inhabited

/-- Whether an excerpt with this indent may be saved. -/
def IndentPolicy.permits (policy : IndentPolicy) (info : IndentInfo) (override : Bool) : Bool :=
  info.error.isNone || override || policy == .warn

@[simp] theorem restoreIndent_empty (text : String) : restoreIndent text "" = text := by
  simp [restoreIndent]

end StoryScript.Text
