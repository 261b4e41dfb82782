import Std.Data.TreeMap
import StoryScript.Script.Basic

/-!
# Which statement owns a line

The index lists the statements of a script in the order of its text, each with the label it stands
under. Ranges of lines enclose one another, so a line belongs to the narrowest range around it; of
equally narrow ones the first in the index has it.

## Main definitions

* `Entry` — a statement as the index lists it.
* `Tree.index` — the entries of a script.
* `Owners` — lines with their owners; `Owners.claim` gives an entry the lines that are left.
* `LineMap` — the entries with the owner of each line; `LineMap.owner?`, `LineMap.entry?`.
-/

namespace StoryScript

/-- A statement as the index lists it; statements outside of labels have no label. -/
structure Entry where
  nodeId : String
  kind : NodeKind
  labelId : Option String
  labelName : Option String
  startLine : Nat
  endLine : Nat
deriving Repr, DecidableEq, Inhabited

namespace Entry

/-- How many lines follow the first one. -/
def span (e : Entry) : Nat :=
  e.endLine - e.startLine

/-- Whether a line lies in the range of an entry. -/
def contains (e : Entry) (line : Nat) : Bool :=
  e.startLine ≤ line && line ≤ e.endLine

end Entry

/-- The label that stands around a statement: its id and its name. -/
abbrev LabelRef := Option (String × String)

namespace Node

/-- The label that counts for a statement and all below it. -/
def labelRef (outer : LabelRef) (n : Node) : LabelRef :=
  if n.isLabel then some (n.id, n.caption) else outer

/-- The entry of a single statement; a reversed range has none. -/
def entry (label : LabelRef) (n : Node) : List Entry :=
  if n.startLine ≤ n.endLine then
    [⟨n.id, n.kind, label.map (·.1), label.map (·.2), n.startLine, n.endLine⟩]
  else []

mutual

/-- The entries of a statement and of all below it. -/
def index (outer : LabelRef) (n : Node) : List Entry :=
  match n with
  | ⟨id, kind, caption, s, e, body⟩ =>
    let label := labelRef outer ⟨id, kind, caption, s, e, body⟩
    entry label ⟨id, kind, caption, s, e, body⟩ ++
      match body with
      | .sequence cs => indexAll label cs
      | .conditional ts fs => indexAll label ts ++ indexAll label fs
      | .choice os => indexAll label os
      | .leaf => []

/-- The entries of statements and of all below them. -/
def indexAll (outer : LabelRef) : List Node → List Entry
  | [] => []
  | n :: ns => n.index outer ++ indexAll outer ns

end

end Node

/-- The entries of a script, in the order of its text. -/
def Tree.index (t : Tree) : List Entry :=
  Node.indexAll none t.children

/-- The owner of each line that has one, by its place in a list of entries. -/
abbrev Owners :=
  Std.TreeMap Nat Nat (@compare Nat instOrdNat)

namespace Owners

/-- Gives the lines of a range to the entry at place `i`, but for those that are taken. -/
def fill (owners : Owners) (first count i : Nat) : Owners :=
  match count with
  | 0 => owners
  | count + 1 => fill (owners.insertIfNew first i) (first + 1) count i

/-- Gives an entry the lines of its range that are not taken. -/
def claim (owners : Owners) (e : Entry × Nat) : Owners :=
  owners.fill e.1.startLine (e.1.endLine + 1 - e.1.startLine) e.2

end Owners

/-- The entries of a script, and which of them owns which line. -/
structure LineMap where
  entries : List Entry := []
  owners : Owners := {}
deriving Repr, Inhabited

namespace LineMap

/-- Entries with their places, from narrow to wide. Equally wide entries keep their order. -/
def narrowFirst (entries : List Entry) : List (Entry × Nat) :=
  entries.zipIdx.mergeSort fun a b => a.1.span ≤ b.1.span

/-- The map of a list of entries. Each in turn, from the narrowest on, takes the lines of its range
that are left. -/
def ofEntries (entries : List Entry) : LineMap :=
  ⟨entries, (narrowFirst entries).foldl Owners.claim {}⟩

def ofTree (t : Tree) : LineMap :=
  ofEntries t.index

/-- The entry that a line belongs to. -/
def owner? (m : LineMap) (line : Nat) : Option Entry :=
  m.owners[line]?.bind (m.entries[·]?)

/-- The first entry of a statement. -/
def entry? (m : LineMap) (nodeId : String) : Option Entry :=
  m.entries.find? (·.nodeId == nodeId)

end LineMap

end StoryScript
