import StoryScript.Script.Basic

/-!
# The picture of a script

A picture has a box for every statement and an arrow wherever control may pass. Positions are made
of numbers of any kind; the program uses floats.

## Main definitions

* `Edge` — an arrow, whose id depends on its ends and its label only.
* `Box`, `Graph` — boxes with positions, and the picture made of boxes and arrows.
* `Graph.dedupEdges` — of arrows with equal ids the first is kept.
-/

namespace StoryScript

/-- An arrow from one box to another. -/
structure Edge where
  id : String
  source : String
  target : String
  label : Option String
deriving Repr, DecidableEq, Inhabited

def Edge.idOf (source target : String) (label : Option String) : String :=
  match label with
  | none => s!"e-{source}-{target}"
  | some l => s!"e-{source}-{target}-{l}"

def Edge.between (source target : String) (label : Option String := none) : Edge :=
  ⟨idOf source target label, source, target, label⟩

/-- A point of the picture; `y` grows downwards. -/
structure Position (α : Type) where
  x : α
  y : α
deriving Repr, DecidableEq, Inhabited

/-- What a box says about its statement. -/
structure NodeSummary where
  kind : NodeKind
  caption : String
  startLine : Nat
  endLine : Nat
  labelId : String
deriving Repr, DecidableEq, Inhabited

/-- What the box of a statement under a given label says. -/
def NodeSummary.ofNode (labelId : String) (n : Node) : NodeSummary :=
  ⟨n.kind, n.caption, n.startLine, n.endLine, labelId⟩

/-- A box by its upper left corner. The block that ends a label stands for no statement
and has no summary. -/
structure Box (α : Type) where
  id : String
  position : Position α
  summary : Option NodeSummary
deriving Repr, DecidableEq, Inhabited

def Box.isEndBlock (b : Box α) : Bool :=
  b.summary.isNone

/-- Boxes and arrows. -/
structure Graph (α : Type) where
  nodes : List (Box α) := []
  edges : List Edge := []
deriving Repr, DecidableEq, Inhabited

/-- Keeps the first arrow of every id. -/
def Edge.dedup : List Edge → List Edge
  | [] => []
  | e :: es => e :: (dedup es).filter (·.id != e.id)

namespace Graph

def node? (g : Graph α) (id : String) : Option (Box α) :=
  g.nodes.find? (·.id == id)

def edgesFrom (g : Graph α) (source : String) : List Edge :=
  g.edges.filter (·.source == source)

def edge? (g : Graph α) (source target : String) : Option Edge :=
  g.edges.find? fun e => e.source == source && e.target == target

/-- Keeps the first arrow of every id. -/
def dedupEdges (g : Graph α) : Graph α :=
  { g with edges := Edge.dedup g.edges }

end Graph

end StoryScript
