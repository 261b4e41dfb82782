/-!
# Lines of a script

A script is a list of lines and a mark for the final line feed. Only a line feed ends a line, so a
carriage return stays with its line, and writing a script out gives back the text it was read from.

## Main definitions

* `segments`, `unlines` — the stretches between line feeds, and the text made of them.
* `Document` — lines and the final line feed; `Document.ofString` and `Document.toString`.
* `extract`, `splice`, `insertAt` — reading, replacing and inserting whole lines. Lines are
  numbered from zero and ranges include both ends.
* `Written` — where an edit put its lines and by how much the lines after it moved.
-/

namespace StoryScript.Text

/-- The stretches of text between line feeds; there is always at least one. -/
def segments (s : String) : List String :=
  (s.toList.splitOn '\n').map String.ofList

/-- Lines put together with a line feed between each two. -/
def unlines (lines : List String) : String :=
  "\n".intercalate lines

@[simp] theorem toList_unlines (lines : List String) :
    (unlines lines).toList = ['\n'].intercalate (lines.map String.toList) := by
  simp [unlines]

@[simp] theorem unlines_segments (s : String) : unlines (segments s) = s := by
  have id_map : String.toList ∘ String.ofList = id := by funext cs; simp
  rw [← String.toList_inj, toList_unlines, segments, List.map_map, id_map, List.map_id,
    List.intercalate_splitOn]

theorem segments_unlines {lines : List String} (ne : lines ≠ [])
    (noFeed : ∀ l ∈ lines, '\n' ∉ l.toList) : segments (unlines lines) = lines := by
  have id_map : String.ofList ∘ String.toList = id := by funext s; simp
  rw [segments, toList_unlines, List.splitOn_intercalate '\n', List.map_map, id_map, List.map_id]
  · simpa using noFeed
  · simpa using ne

/-- A script as lines, with a mark telling whether a line feed ends the last one. -/
structure Document where
  lines : List String
  finalNewline : Bool
deriving Repr, DecidableEq, Inhabited

namespace Document

/-- Reads a text. The empty text has no lines; one final line feed belongs to the last line. -/
def ofString (s : String) : Document :=
  match s.toList.getLast? with
  | none => ⟨[], false⟩
  | some '\n' => ⟨segments (.ofList s.toList.dropLast), true⟩
  | some _ => ⟨segments s, false⟩

def toString (d : Document) : String :=
  unlines d.lines ++ if d.finalNewline then "\n" else ""

/-- Writing a document out gives back the text it was read from. -/
@[simp] theorem toString_ofString (s : String) : (ofString s).toString = s := by
  rw [← String.toList_inj]
  unfold ofString
  split
  · next h =>
    rw [List.getLast?_eq_none_iff] at h
    simp [toString, h]
  · next h =>
    have h' : s.toList.dropLast ++ ['\n'] = s.toList := by
      obtain ⟨cs, hcs⟩ := List.getLast?_eq_some_iff.1 h
      simp [hcs]
    simp [toString, h']
  · simp [toString]

end Document

/-- The lines of a text, without the mark for the final line feed. -/
def toLines (s : String) : List String :=
  (Document.ofString s).lines

/-- The outcome of an edit: where the new lines start, how many there are, and how far the lines
behind them moved. -/
structure Written where
  startLine : Nat
  lineCount : Nat
  lineDelta : Int
deriving Repr, DecidableEq, Inhabited

def Written.lastLine? (w : Written) : Option Nat :=
  if w.lineCount = 0 then none else some (w.startLine + w.lineCount - 1)

/-- Why an edit of lines is refused. -/
inductive LineError where
  /-- The range is reversed or leaves the script. -/
  | range (first last count : Nat)
  /-- The place to insert at lies behind the end of the script. -/
  | insertion (line count : Nat)
deriving Repr, DecidableEq

def LineError.message : LineError → String
  | .range first last count =>
    s!"invalid line range {first}..={last} for a script of {count} lines"
  | .insertion line count => s!"invalid insertion line {line} for a script of {count} lines"

/-- Accepts the ranges that lie inside `lines`. -/
def checkRange (lines : List String) (first last : Nat) : Except LineError Unit :=
  if first ≤ last ∧ last < lines.length then .ok ()
  else .error (.range first last lines.length)

/-- The text of lines `first` to `last`. -/
def extract (lines : List String) (first last : Nat) : Except LineError String := do
  checkRange lines first last
  return unlines ((lines.drop first).take (last + 1 - first))

/-- Replaces lines `first` to `last` by the lines of `text`. -/
def splice (lines : List String) (first last : Nat) (text : String) :
    Except LineError (List String × Written) := do
  checkRange lines first last
  let new := toLines text
  return (lines.take first ++ new ++ lines.drop (last + 1),
    ⟨first, new.length, new.length - (last + 1 - first : Nat)⟩)

/-- Puts the lines of `text` in front of line `line`; at the length of the script they go to its
end. -/
def insertAt (lines : List String) (line : Nat) (text : String) :
    Except LineError (List String × Written) :=
  if line ≤ lines.length then
    let new := toLines text
    .ok (lines.take line ++ new ++ lines.drop line, ⟨line, new.length, new.length⟩)
  else .error (.insertion line lines.length)

end StoryScript.Text
