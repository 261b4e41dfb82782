import StoryScript.Graph.Flow
import StoryScript.Graph.Placement

/-!
# Drawing a script

The labels of a script are drawn under each other, each with the block that ends it. Drawing fails
when a range of lines is reversed, or when a statement stands below one of the same id: control
would come back to a box that is still open.

## Main definitions

* `LayoutError`, `Node.check` — why a label cannot be drawn, and finding out.
* `LabelFilter` — which labels are drawn.
* `Node.layoutLabel`, `Tree.layout` — the picture of a label and of a script.
-/

namespace StoryScript

/-- Why a script cannot be drawn. -/
inductive LayoutError where
  /-- A statement stands below one with the same id. -/
  | cycle (id : String)
  /-- The first line comes after the last. -/
  | invertedRange (id : String) (first last : Nat)
deriving Repr, DecidableEq

/-- The text shown for a script that cannot be drawn. -/
def LayoutError.message : LayoutError → String
  | .cycle id => s!"cycle detected: node {id} appears twice on the same path"
  | .invertedRange id first last => s!"node {id}: start_line {first} is after end_line {last}"

namespace Node

/-- What is wrong with one statement below those of `path`. -/
def fault? (path : List String) (id : String) (first last : Nat) : Option LayoutError :=
  if last < first then some (.invertedRange id first last)
  else if path.contains id then some (.cycle id)
  else none

mutual

/-- The first statement that cannot be drawn, of one below those of `path` and all below it. -/
def check (path : List String) (n : Node) : Except LayoutError Unit :=
  match n with
  | ⟨id, _, _, first, last, body⟩ =>
    match fault? path id first last with
    | some e => .error e
    | none =>
      match body with
      | .sequence cs => checkAll (id :: path) cs
      | .conditional ts fs => do
        checkAll (id :: path) ts
        checkAll (id :: path) fs
      | .choice os => checkAll (id :: path) os
      | .leaf => .ok ()

/-- The first statement that cannot be drawn, in a list and below it. -/
def checkAll (path : List String) : List Node → Except LayoutError Unit
  | [] => .ok ()
  | n :: ns => do
    n.check path
    checkAll path ns

end

end Node

/-- Which labels are drawn: all, or those of one name or id. -/
inductive LabelFilter where
  | all
  | only (name : String)
deriving Repr, DecidableEq, Inhabited

def LabelFilter.accepts (f : LabelFilter) (label : Node) : Bool :=
  match f with
  | .all => true
  | .only name => label.caption == name || label.id == name

/-- The picture of one label with its end block. -/
structure LabelLayout (α : Type) where
  nodes : List (Box α)
  edges : List Edge
  endNodeId : String
  endY : α
deriving Repr

variable {α : Type} [Coordinate α]

open Coordinate

/-- The block that ends a label, centred under the boxes of the label. -/
def endBlock (spacing : Spacing α) (labelId : String) (b : Block α) : Box α :=
  let center := (b.bounds.map Bounds.center).getD (half spacing.nodeWidth)
  ⟨endBlockId labelId, ⟨center - half spacing.nodeWidth, b.nextY⟩, none⟩

/-- The picture of a label, its upper edge at `y`. -/
def Node.layoutLabel (spacing : Spacing α) (label : Node) (y : α) :
    Except LayoutError (LabelLayout α) := do
  label.check []
  let block := label.place spacing label.id (ofNat 0) y
  return ⟨block.nodes ++ [endBlock spacing label.id block], label.flowEdges,
    endBlockId label.id, block.nextY⟩

namespace Tree

/-- The upper edge of a label below one that ends at `endY`. -/
def nextLabelY (spacing : Spacing α) (endY : α) : α :=
  endY + spacing.nodeHeight + spacing.verticalGap * spacing.labelGapFactor

def layoutLabels (spacing : Spacing α) (y : α) : List Node → Except LayoutError (Graph α)
  | [] => .ok {}
  | label :: rest => do
    let part ← label.layoutLabel spacing y
    let below ← layoutLabels spacing (nextLabelY spacing part.endY) rest
    return ⟨part.nodes ++ below.nodes, part.edges ++ below.edges⟩

/-- The labels that are drawn. -/
def drawn (t : Tree) (filter : LabelFilter) : List Node :=
  t.labels.filter filter.accepts

/-- The picture of a script. -/
def layout (spacing : Spacing α) (filter : LabelFilter) (t : Tree) :
    Except LayoutError (Graph α) := do
  return (← layoutLabels spacing (ofNat 0) (t.drawn filter)).dedupEdges

end Tree

end StoryScript
