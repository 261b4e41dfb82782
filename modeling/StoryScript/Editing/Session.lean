import StoryScript.Editing.Canvas
import StoryScript.Index.LineMap
import StoryScript.Sidecar.Line

/-!
# Edit sessions

A session holds one statement open for editing. Its text is shown without the sidecar line and
without the base indent, and gets both back when it is saved.

## Main definitions

* `Session` and `Session.ofExcerpt` — a session from the text of a statement.
* `Session.unplaced` — a session as its user gets it.
* `SaveRequest` and `Session.text` — the text that a save writes.
-/

namespace StoryScript

/-- A statement that is open for editing. -/
structure Session where
  nodeId : String
  startLine : Nat
  endLine : Nat
  metadata : Sidecar.Metadata
  /-- How the sidecar line sat in the script, if there was one. -/
  sidecar : Option Sidecar.Style
  indent : Text.IndentInfo
  /-- The text without sidecar line and base indent. -/
  body : String
  /-- The lock was not to be had. -/
  readOnly : Bool
  /-- What was seen when the session began. -/
  viewport : Viewport
deriving Repr, Inhabited

/-- A session as its user gets it. What was seen when it began is not part of that. -/
def Session.unplaced (s : Session) : Session :=
  { s with viewport := {} }

theorem Session.unplaced_eq_self {s : Session} (h : s.viewport = {}) : s.unplaced = s := by
  rw [unplaced, ← h]

/-- A session for an entry of the index, from its text in the script. -/
def Session.ofExcerpt (nodeId : String) (entry : Entry) (excerpt : String) (readOnly : Bool)
    (viewport : Viewport) : Session :=
  let (metadata, body) := Sidecar.split excerpt
  let stripped := Text.stripIndent body
  ⟨nodeId, entry.startLine, entry.endLine, metadata, Sidecar.style? excerpt, stripped.info,
    stripped.text, readOnly, viewport⟩

section

variable (node excerpt : String) (entry : Entry) (readOnly : Bool) (viewport : Viewport)

@[simp] theorem Session.nodeId_ofExcerpt :
    (ofExcerpt node entry excerpt readOnly viewport).nodeId = node := by
  unfold ofExcerpt
  split
  rfl

@[simp] theorem Session.startLine_ofExcerpt :
    (ofExcerpt node entry excerpt readOnly viewport).startLine = entry.startLine := by
  unfold ofExcerpt
  split
  rfl

@[simp] theorem Session.endLine_ofExcerpt :
    (ofExcerpt node entry excerpt readOnly viewport).endLine = entry.endLine := by
  unfold ofExcerpt
  split
  rfl

@[simp] theorem Session.readOnly_ofExcerpt :
    (ofExcerpt node entry excerpt readOnly viewport).readOnly = readOnly := by
  unfold ofExcerpt
  split
  rfl

@[simp] theorem Session.viewport_ofExcerpt :
    (ofExcerpt node entry excerpt readOnly viewport).viewport = viewport := by
  unfold ofExcerpt
  split
  rfl

/-- A session is the same for its user, whatever was seen when it began. -/
theorem Session.unplaced_ofExcerpt (viewport' : Viewport) :
    (ofExcerpt node entry excerpt readOnly viewport).unplaced =
      (ofExcerpt node entry excerpt readOnly viewport').unplaced := by
  unfold ofExcerpt
  split
  rfl

theorem Session.ofExcerpt_unplaced :
    ofExcerpt node entry excerpt readOnly {} =
      (ofExcerpt node entry excerpt readOnly viewport).unplaced := by
  rw [unplaced_ofExcerpt node excerpt entry readOnly viewport {}]
  exact (unplaced_eq_self (viewport_ofExcerpt node excerpt entry readOnly {})).symm

end

/-- What is to be saved, and the box to go to when the picture is drawn anew. -/
structure SaveRequest where
  body : String
  metadata : Sidecar.Metadata := {}
  overrideIndent : Bool := false
  focus : Option String := none
deriving Repr, Inhabited

def Session.indented (s : Session) (body : String) : String :=
  if s.indent.stripped then Text.restoreIndent body s.indent.indent else body

/-- How the sidecar line is written: as it was, and a new one like the body below it. -/
def Session.sidecarStyle (s : Session) (body : String) : Sidecar.Style :=
  s.sidecar.getD ⟨s.indent.indent, (Sidecar.Style.ofLine (Sidecar.firstLine body).1).crlf⟩

def Session.text (s : Session) (r : SaveRequest) : String :=
  let body := s.indented r.body
  Sidecar.attach body r.metadata (s.sidecarStyle body)

end StoryScript
