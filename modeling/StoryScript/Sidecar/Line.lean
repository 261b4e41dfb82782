import StoryScript.Sidecar.Metadata
import StoryScript.Sidecar.Token
import StoryScript.Text.Lines
import StoryScript.Text.Indent

/-!
# The sidecar line of an excerpt

The notes of a statement stand in a comment right above it: a marker, then a word for each note.
This module reads and writes such a line, and takes it off an excerpt or puts it back in the style
in which it was found.

## Main definitions

* `parse`, `format` — a sidecar line as `Metadata`, and back.
* `Style` — the indent and line ending of a sidecar line; `Style.ofLine`, `style?`.
* `split`, `attach` — an excerpt as notes and body, and back.
-/

namespace StoryScript.Sidecar

open Text

def marker : String :=
  "# @node"

/-- What stands behind the marker of a sidecar line; nothing for any other line. -/
def afterMarker? (line : String) : Option (List Char) :=
  let cs := stripBoth isSpace line.toList
  let rest := cs.drop marker.toList.length
  if marker.toList.isPrefixOf cs && rest.head?.all isSpace then some rest else none

/-- Takes over the tokens in order, so the last one that counts decides. -/
def Metadata.ofTokens (ts : List Token) : Metadata :=
  ts.foldl (fun m t => m.assign t.key t.value t.quoted) {}

/-- Reads a sidecar line; `none` for any other line. -/
def parse (line : String) : Option Metadata :=
  (afterMarker? line).map fun rest => .ofTokens (tokens rest)

/-- A note as a word of the line, with the space in front of it. -/
def word (m : Metadata) (f : Field) : String :=
  match m.get f with
  | none => ""
  | some value => " " ++ f.key ++ "=" ++ encode value (m.quoted.contains f.key)

/-- Writes the notes that are set; `none` if there are none. -/
def format (m : Metadata) : Option String :=
  if m.isEmpty then none else some (marker ++ String.join (Field.all.map (word m)))

/-- How a sidecar line sits in the script. -/
structure Style where
  indent : String := ""
  crlf : Bool := false
deriving Repr, DecidableEq, Inhabited

def Style.ofLine (line : String) : Style :=
  ⟨leadingIndent line, line.toList.getLast? == some '\r'⟩

/-- An excerpt as its first line and the text behind it, if it has more than one line. -/
def firstLine (excerpt : String) : String × Option String :=
  let cs := excerpt.toList
  (.ofList (cs.takeWhile (· != '\n')),
    match cs.dropWhile (· != '\n') with
    | [] => none
    | _ :: rest => some (.ofList rest))

/-- The text behind its first line when that line is blank, else the text itself. -/
def dropBlankLine (text : String) : String :=
  let (first, rest) := firstLine text
  if isBlank first then rest.getD "" else text

/-- Takes the sidecar line off an excerpt, and one blank line right behind it. -/
def split (excerpt : String) : Metadata × String :=
  let (first, rest) := firstLine excerpt
  match parse first with
  | none => ({}, excerpt)
  | some m => (m, (rest.map dropBlankLine).getD "")

/-- The style of an excerpt's sidecar line, if it has one. -/
def style? (excerpt : String) : Option Style :=
  let first := (firstLine excerpt).1
  (parse first).map fun _ => .ofLine first

/-- Puts the sidecar line in front of a body; without notes there is no line. -/
def attach (body : String) (m : Metadata) (style : Style := {}) : String :=
  match format m with
  | none => body
  | some line =>
    let line := style.indent ++ line ++ if style.crlf then "\r" else ""
    if body.isEmpty then line else line ++ "\n" ++ body

end StoryScript.Sidecar
