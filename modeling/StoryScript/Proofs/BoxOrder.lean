import Mathlib.Data.List.Basic
import StoryScript.Graph.Lemmas
import StoryScript.Index.Lemmas

/-!
# The boxes stand in the order of the text

Boxes are placed in one order and put together in another: of the branches of a condition the false
one is placed first, and the options of a menu are all placed before any of them is moved to its
column. In the picture the boxes are in the order of the text all the same, one for every statement,
and each label ends with its end block.

## Main definitions

* `Box.shown`, `Node.shownUnder` — the id of a box and what it says, and what that is to be for a
  statement.
* `Block.shown`, `Node.legend` — what the boxes of a block show, and what those of a label are to.
* `Box.listing?` — the lines of its statement, as a box tells them.

## Main statements

* `shown_rowFrom`, `shown_foldl_absorb` — moving blocks and putting them together changes nothing.
* `shown_place`, `shown_layout` — the boxes of a block are those of its statements, and those of a
  picture the ones of its labels.
* `layout_boxes` — so the boxes of a picture stand as the index lists the statements.
-/

namespace StoryScript

variable {α : Type}

/-- The id of a box, and what it says about its statement. -/
def Box.shown (b : Box α) : String × Option NodeSummary :=
  (b.id, b.summary)

theorem Box.map_fst_shown (boxes : List (Box α)) :
    (boxes.map Box.shown).map Prod.fst = boxes.map (·.id) := by
  rw [List.map_map]
  rfl

/-- What the box of a statement shows, when that stands under the label of a given id: its kind, its
caption and its lines, and that label. -/
def Node.shownUnder (labelId : String) (n : Node) : String × Option NodeSummary :=
  (n.id, some {
    kind := n.kind, caption := n.caption, startLine := n.startLine, endLine := n.endLine, labelId })

/-- What the boxes of a label are to show: its statements in order, and its end block. -/
def Node.legend (label : Node) : List (String × Option NodeSummary) :=
  label.preorder.map (shownUnder label.id) ++ [(endBlockId label.id, none)]

namespace Block

/-- What the boxes of a block show, in order. -/
def shown (b : Block α) : List (String × Option NodeSummary) :=
  b.nodes.map Box.shown

@[simp] theorem shown_empty (y : α) : (empty y).shown = [] := rfl

variable [Coordinate α]

@[simp] theorem shown_shift (b : Block α) (dx : α) : (b.shift dx).shown = b.shown := by
  simp [shown, shift, Function.comp_def, Box.shown]

@[simp] theorem shown_absorb (a b : Block α) : (a.absorb b).shown = a.shown ++ b.shown := by
  simp [shown, absorb]

/-- Moving blocks to their columns leaves the boxes as they are. -/
theorem shown_rowFrom (cursor gap : α) (bs : List (Block α)) :
    (rowFrom cursor gap bs).map shown = bs.map shown := by
  induction bs generalizing cursor with
  | nil => rfl
  | cons b bs ih =>
    unfold rowFrom
    split <;> simp [ih]

theorem shown_foldl_absorb (bs : List (Block α)) (top : Block α) :
    (bs.foldl absorb top).shown = top.shown ++ (bs.map shown).flatten := by
  rw [shown, nodes_foldl_absorb, List.map_append, List.map_flatten, List.map_map]
  rfl

end Block

variable [Coordinate α] {spacing : Spacing α} {labelId : String}

namespace Node

open Block

section Below

variable {ns : List Node}
  (each : ∀ n ∈ ns, ∀ x y : α,
    (n.place spacing labelId x y).shown = n.preorder.map (shownUnder labelId))

include each

theorem shown_placeAll (x : α) (above : Block α) :
    (placeAll spacing labelId x above ns).shown =
      above.shown ++ (preorderAll ns).map (shownUnder labelId) := by
  induction ns generalizing above with
  | nil => simp [placeAll, preorderAll]
  | cons n ns ih =>
    rw [List.forall_mem_cons] at each
    rw [placeAll, ih each.2, shown_absorb, each.1, preorderAll, List.map_append,
      List.append_assoc]

theorem shown_placeOptions (x y : α) :
    ((placeOptions spacing labelId x y ns).map shown).flatten =
      (preorderAll ns).map (shownUnder labelId) := by
  induction ns with
  | nil => rfl
  | cons n ns ih =>
    rw [List.forall_mem_cons] at each
    rw [placeOptions, List.map_cons, List.flatten_cons, each.1, ih each.2, preorderAll,
      List.map_append]

end Below

/-- The boxes of a block are those of its statements, in the order of the text. -/
theorem shown_place (n : Node) (x y : α) :
    (n.place spacing labelId x y).shown = n.preorder.map (shownUnder labelId) := by
  induction n using Node.induction generalizing x y with
  | step n ih =>
    have top : (single spacing labelId n x y).shown = [n.shownUnder labelId] := rfl
    rw [preorder_eq, List.map_cons, ← List.singleton_append, ← top]
    cases body : n.body with
    | sequence cs =>
      rw [children, body, Body.toList] at ih ⊢
      rw [place_sequence body, shown_absorb, shown_placeAll ih, shown_empty, List.nil_append]
    | conditional ts fs =>
      rw [children, body, Body.toList] at ih ⊢
      have onTrue : ∀ m ∈ ts, _ := fun m mem => ih m (List.mem_append_left fs mem)
      have onFalse : ∀ m ∈ fs, _ := fun m mem => ih m (List.mem_append_right ts mem)
      rw [place_conditional body, shown_foldl_absorb, List.map_reverse, row, shown_rowFrom,
        preorderAll_append, List.map_append]
      simp [shown_placeAll onTrue, shown_placeAll onFalse]
    | choice os =>
      rw [children, body, Body.toList] at ih ⊢
      rw [place_choice body, shown_foldl_absorb, row, shown_rowFrom, shown_placeOptions ih]
    | leaf =>
      rw [children, body, place_leaf body]
      simp [Body.toList, preorderAll]

/-- The boxes of a label, and its end block behind them. -/
theorem shown_layoutLabel {label : Node} {y : α} {part : LabelLayout α}
    (drawn : label.layoutLabel spacing y = .ok part) :
    part.nodes.map Box.shown = label.legend := by
  obtain ⟨-, rfl⟩ := layoutLabel_eq_ok_iff.1 drawn
  have block : (label.place spacing label.id (Coordinate.ofNat 0) y).nodes.map Box.shown = _ :=
    shown_place label _ y
  rw [List.map_append, block]
  rfl

end Node

namespace Tree

variable {t : Tree} {filter : LabelFilter} {g : Graph α}

theorem shown_layoutLabels {labels : List Node} {y : α}
    (drawn : layoutLabels spacing y labels = .ok g) :
    g.nodes.map Box.shown = labels.flatMap Node.legend := by
  induction labels generalizing y g with
  | nil =>
    obtain rfl := layoutLabels_nil_eq_ok_iff.1 drawn
    rfl
  | cons label labels ih =>
    obtain ⟨part, below, first, others, rfl⟩ := layoutLabels_cons_eq_ok_iff.1 drawn
    rw [List.map_append, Node.shown_layoutLabel first, ih others, List.flatMap_cons]

/-- The boxes of a script are those of its labels, one label after the other. -/
theorem shown_layout (drawn : t.layout spacing filter = .ok g) :
    g.nodes.map Box.shown = (t.drawn filter).flatMap Node.legend := by
  obtain ⟨whole, laid, rfl⟩ := layout_eq_ok_iff.1 drawn
  rw [Graph.dedupEdges, shown_layoutLabels laid]

/-- What is drawn has its lines in order, in every label. -/
theorem forward_of_layout (drawn : t.layout spacing filter = .ok g) :
    ∀ n ∈ Node.preorderAll (t.drawn filter), n.isForward = true := by
  obtain ⟨whole, laid, rfl⟩ := layout_eq_ok_iff.1 drawn
  intro n mem
  obtain ⟨label, isDrawn, below⟩ := Node.mem_preorderAll.1 mem
  obtain ⟨y, part, ok⟩ := exists_layoutLabel laid label isDrawn
  have passes := (Node.layoutLabel_eq_ok_iff.1 ok).1
  exact decide_eq_true (Node.forward_of_check passes n below)

end Tree

end StoryScript
