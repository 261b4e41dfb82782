import StoryScript.Editing.Table
import StoryScript.Text.Lines

/-!
# Stored scripts

Scripts are kept under a name and addressed by ranges of lines.

## Main definitions

* `Store` — scripts by name; `Store.put`, `Store.content?`.
* `Store.readAll`, `Store.readRange`, `Store.writeRange`, `Store.insertLines`.
* `StoreError` — why a script cannot be read or written.
-/

namespace StoryScript

/-- Scripts by name. -/
structure Store where
  scripts : Table Text.Document := {}
deriving Repr, DecidableEq, Inhabited

/-- Why a script cannot be read or written. -/
inductive StoreError where
  /-- No script has this name. -/
  | missing (script : String)
  | lines (error : Text.LineError)
deriving Repr, DecidableEq

/-- The text shown when a script cannot be read or written. -/
def StoreError.message : StoreError → String
  | .missing script => s!"Script not found: {script}"
  | .lines error => error.message

namespace Store

def put (s : Store) (script text : String) : Store :=
  ⟨s.scripts.put script (.ofString text)⟩

def content? (s : Store) (script : String) : Option String :=
  (s.scripts.get? script).map (·.toString)

/-- The script of a name. -/
def document (s : Store) (script : String) : Except StoreError Text.Document :=
  match s.scripts.get? script with
  | some d => .ok d
  | none => .error (.missing script)

def readAll (s : Store) (script : String) : Except StoreError String :=
  (s.document script).map (·.toString)

def readRange (s : Store) (script : String) (first last : Nat) : Except StoreError String := do
  let d ← s.document script
  (Text.extract d.lines first last).mapError .lines

/-- Keeps the outcome of an edit of the lines of a script. -/
def edit (s : Store) (script : String)
    (f : List String → Except Text.LineError (List String × Text.Written)) :
    Except StoreError (Store × Text.Written) := do
  let d ← s.document script
  let (lines, written) ← (f d.lines).mapError .lines
  return (⟨s.scripts.put script { d with lines }⟩, written)

def writeRange (s : Store) (script : String) (first last : Nat) (text : String) :
    Except StoreError (Store × Text.Written) :=
  s.edit script fun lines => Text.splice lines first last text

def insertLines (s : Store) (script : String) (line : Nat) (text : String) :
    Except StoreError (Store × Text.Written) :=
  s.edit script fun lines => Text.insertAt lines line text

section

variable {s s' : Store} {script text : String} {first last : Nat} {written : Text.Written}

theorem mapError_ok {ε ε' α : Type} (f : ε → ε') (a : α) :
    (Except.ok a : Except ε α).mapError f = .ok a := rfl

theorem mapError_error {ε ε' α : Type} (f : ε → ε') (err : ε) :
    (Except.error err : Except ε α).mapError f = .error (f err) := rfl

theorem readAll_eq_ok_iff : s.readAll script = .ok text ↔
    ∃ d, s.scripts.get? script = some d ∧ d.toString = text := by
  unfold readAll document
  cases s.scripts.get? script <;> simp [Except.map]

theorem readRange_eq_ok_iff : s.readRange script first last = .ok text ↔
    ∃ d, s.scripts.get? script = some d ∧ Text.extract d.lines first last = .ok text := by
  unfold readRange document
  cases s.scripts.get? script with
  | none => simp [bind, Except.bind]
  | some d => cases read : Text.extract d.lines first last <;>
      simp [bind, Except.bind, mapError_ok, mapError_error, read]

/-- An edit changes the lines of one script and leaves all else that is stored. -/
theorem edit_eq_ok_iff {f : List String → Except Text.LineError (List String × Text.Written)} :
    s.edit script f = .ok (s', written) ↔
      ∃ d lines, s.scripts.get? script = some d ∧ f d.lines = .ok (lines, written) ∧
        s' = ⟨s.scripts.put script { d with lines }⟩ := by
  unfold edit document
  cases s.scripts.get? script with
  | none => simp [bind, Except.bind]
  | some d =>
    rcases edited : f d.lines with err | ⟨lines, written'⟩
    · simp [bind, Except.bind, mapError_error, edited]
    · simp [bind, Except.bind, mapError_ok, edited, pure, Except.pure, and_assoc, and_comm,
        eq_comm]

end

end Store

end StoryScript
