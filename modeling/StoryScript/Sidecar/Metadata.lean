/-!
# Notes about a statement

An author keeps a few notes about a statement: a name, how far the work on it is, who wrote it, and
colours and a tag for its box in the picture. Each note is optional.

## Main definitions

* `Status`, `Field` — the three states of work, and the six notes with their keys.
* `Metadata` — the notes of one statement.
* `Metadata.get`, `Metadata.assign` — reading a note, and taking one from its written form.
-/

namespace StoryScript.Sidecar

/-- How far the work on a statement is. -/
inductive Status where
  | done
  | inProgress
  | toDo
deriving Repr, DecidableEq, Inhabited

namespace Status

def all : List Status :=
  [.done, .inProgress, .toDo]

def text : Status → String
  | done => "Done"
  | inProgress => "In progress"
  | toDo => "To Do"

/-- Reads a state of work, which has one spelling only. -/
def ofText? (s : String) : Option Status :=
  all.find? (·.text == s)

@[simp] theorem ofText?_text (s : Status) : ofText? s.text = some s := by
  cases s <;> decide

end Status

/-- The notes that a statement can carry, in the order in which they are written. -/
inductive Field where
  | name
  | status
  | author
  | accentColor
  | tag
  | tagColor
deriving Repr, DecidableEq, Inhabited

namespace Field

def all : List Field :=
  [.name, .status, .author, .accentColor, .tag, .tagColor]

def key : Field → String
  | name => "name"
  | status => "status"
  | author => "author"
  | accentColor => "accent_color"
  | tag => "tag"
  | tagColor => "tag_color"

def ofKey? (s : String) : Option Field :=
  all.find? (·.key == s)

@[simp] theorem ofKey?_key (f : Field) : ofKey? f.key = some f := by
  cases f <;> decide

theorem key_of_ofKey? {s : String} {f : Field} (h : ofKey? s = some f) : f.key = s := by
  simpa using List.find?_some h

theorem key_inj {f g : Field} (same : f.key = g.key) : f = g := by
  rw [← Option.some_inj, ← ofKey?_key f, same, ofKey?_key]

theorem mem_all (f : Field) : f ∈ all := by
  cases f <;> decide

end Field

/-- The notes of one statement. `quoted` lists, in order, the keys whose value is kept in quotes
when written; it does not count when notes are compared. -/
structure Metadata where
  name : Option String := none
  status : Option Status := none
  author : Option String := none
  accentColor : Option String := none
  tag : Option String := none
  tagColor : Option String := none
  quoted : List String := []
deriving Repr, DecidableEq, Inhabited

def insertKey (key : String) : List String → List String
  | [] => [key]
  | k :: ks =>
    if key < k then key :: k :: ks
    else if key = k then k :: ks
    else k :: insertKey key ks

theorem mem_insertKey {key k : String} {ks : List String} :
    k ∈ insertKey key ks ↔ k = key ∨ k ∈ ks := by
  induction ks with
  | nil => simp [insertKey]
  | cons x xs ih =>
    unfold insertKey
    split
    · simp
    · split
      · subst_vars; simp
      · simp [ih, or_left_comm]

namespace Metadata

def get (m : Metadata) : Field → Option String
  | .name => m.name
  | .status => m.status.map Status.text
  | .author => m.author
  | .accentColor => m.accentColor
  | .tag => m.tag
  | .tagColor => m.tagColor

/-- Sets a note to a written value; only the value of a status can be unfit. -/
def set? (m : Metadata) (value : String) : Field → Option Metadata
  | .name => some { m with name := some value }
  | .status => (Status.ofText? value).map fun s => { m with status := some s }
  | .author => some { m with author := some value }
  | .accentColor => some { m with accentColor := some value }
  | .tag => some { m with tag := some value }
  | .tagColor => some { m with tagColor := some value }

def fields (m : Metadata) : List (Field × Option String) :=
  Field.all.map fun f => (f, m.get f)

def isEmpty (m : Metadata) : Bool :=
  Field.all.all fun f => (m.get f).isNone

/-- Whether two statements carry the same notes, whatever stands in quotes. -/
def same (m n : Metadata) : Bool :=
  m.fields == n.fields

def quote (m : Metadata) (key : String) : Metadata :=
  { m with quoted := insertKey key m.quoted }

def unquote (m : Metadata) (key : String) : Metadata :=
  { m with quoted := m.quoted.filter (· != key) }

/-- Takes over a written value. An unknown key, an empty value or an unfit status changes
nothing. -/
def assign (m : Metadata) (key value : String) (quoted : Bool) : Metadata :=
  if value.isEmpty then m
  else
    match (Field.ofKey? key).bind (m.set? value) with
    | none => m
    | some m' => if quoted then m'.quote key else m'.unquote key

theorem isEmpty_iff {m : Metadata} : m.isEmpty = true ↔ ∀ f, m.get f = none := by
  simp only [isEmpty, List.all_eq_true, Option.isNone_iff_eq_none]
  exact ⟨fun h f => h f f.mem_all, fun h f _ => h f⟩

theorem same_iff {m n : Metadata} : m.same n = true ↔ ∀ f, m.get f = n.get f := by
  simp only [same, fields, beq_iff_eq, List.map_inj_left, Prod.mk.injEq, true_and]
  exact ⟨fun h f => h f f.mem_all, fun h f _ => h f⟩

end Metadata

end StoryScript.Sidecar
