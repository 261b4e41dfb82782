import StoryScript.Graph.Layout
import StoryScript.Script.Lemmas

/-!
# Laws of drawing

What a picture that was drawn consists of: the picture of a label is its block of boxes with the end
block below, and the picture of a script those of its labels, one after the other.

## Main statements

* `Node.check_eq`, `Node.forward_of_check` — a label is checked statement by statement; what passes
  has its lines in order.
* `Node.layoutLabel_eq_ok_iff` — the picture of a label.
* `Tree.layoutLabels_cons_eq_ok_iff`, `Tree.layout_eq_ok_iff` — the picture of a script.
-/

namespace StoryScript

/-- Putting blocks together keeps all their boxes in order. -/
theorem Block.nodes_foldl_absorb {α : Type} [Coordinate α] (bs : List (Block α)) (top : Block α) :
    (bs.foldl absorb top).nodes = top.nodes ++ (bs.map nodes).flatten := by
  induction bs generalizing top with
  | nil => simp
  | cons b bs ih => simp [ih, absorb]

namespace Node

variable {path : List String}

/-! ## The check -/

theorem checkAll_append (ns ms : List Node) :
    checkAll path (ns ++ ms) = (checkAll path ns >>= fun _ => checkAll path ms) := by
  induction ns with
  | nil => rfl
  | cons n ns ih =>
    simp only [List.cons_append, checkAll, ih]
    cases n.check path <;> rfl

/-- A statement is checked alone first, and then all right below it. -/
theorem check_eq (n : Node) : n.check path =
    (fault? path n.id n.startLine n.endLine).elim (checkAll (n.id :: path) n.children) .error := by
  obtain ⟨id, kind, caption, first, last, body⟩ := n
  cases fault : fault? path id first last <;> cases body <;>
    simp only [check, fault, children, Body.toList, checkAll_append, checkAll, Option.elim]

theorem checkAll_eq_ok_iff {ns : List Node} :
    checkAll path ns = .ok () ↔ ∀ n ∈ ns, n.check path = .ok () := by
  induction ns with
  | nil => simp [checkAll]
  | cons n ns ih => simp [checkAll, check_bind_eq_ok_iff, ih]

/-- What passes the check has its lines in order, and so has all below it. -/
theorem forward_of_check {n : Node} (passes : n.check path = .ok ()) :
    ∀ m ∈ n.preorder, m.startLine ≤ m.endLine := by
  induction n using Node.induction generalizing path with
  | step n ih =>
    rw [check_eq] at passes
    cases alone : fault? path n.id n.startLine n.endLine with
    | some e =>
      rw [alone] at passes
      cases passes
    | none =>
      rw [alone, Option.elim] at passes
      intro m mem
      rcases mem_preorder.1 mem with rfl | ⟨c, child, below⟩
      · unfold fault? at alone
        split at alone
        · cases alone
        · omega
      · exact ih c child (checkAll_eq_ok_iff.1 passes c child) m below

variable {α : Type} [Coordinate α] {spacing : Spacing α} {label n : Node} {x y : α}
  {labelId : String}

/-! ## The block of a statement, by its body -/

section Place

open Block

theorem place_sequence {cs : List Node} (body : n.body = .sequence cs) :
    n.place spacing labelId x y = (single spacing labelId n x y).absorb
      (placeAll spacing labelId x (.empty (y + spacing.rowStep)) cs) := by
  obtain ⟨id, kind, caption, first, last, _⟩ := n
  subst body
  rfl

theorem place_conditional {ts fs : List Node} (body : n.body = .conditional ts fs) :
    n.place spacing labelId x y =
      (row (x + half spacing.nodeWidth) spacing.horizontalGap
        [placeAll spacing labelId x (.empty (y + spacing.rowStep)) fs,
          placeAll spacing labelId x (.empty (y + spacing.rowStep)) ts]).reverse.foldl absorb
        (single spacing labelId n x y) := by
  obtain ⟨id, kind, caption, first, last, _⟩ := n
  subst body
  rfl

theorem place_choice {os : List Node} (body : n.body = .choice os) :
    n.place spacing labelId x y =
      (row (x + half spacing.nodeWidth) spacing.horizontalGap
        (placeOptions spacing labelId x (y + spacing.rowStep) os)).foldl absorb
        (single spacing labelId n x y) := by
  obtain ⟨id, kind, caption, first, last, _⟩ := n
  subst body
  rfl

theorem place_leaf (body : n.body = .leaf) :
    n.place spacing labelId x y = single spacing labelId n x y := by
  obtain ⟨id, kind, caption, first, last, _⟩ := n
  subst body
  rfl

theorem placeOptions_eq (spacing : Spacing α) (labelId : String) (x y : α) (os : List Node) :
    placeOptions spacing labelId x y os = os.map (·.place spacing labelId x y) := by
  induction os with
  | nil => rfl
  | cons o os ih => rw [placeOptions, ih, List.map_cons]

end Place

/-! ## The picture of a label -/

/-- A label that passes the check is drawn as its block with the end block. -/
theorem layoutLabel_eq_ok_iff {part : LabelLayout α} :
    label.layoutLabel spacing y = .ok part ↔ label.check [] = .ok () ∧
      part =
        let block := label.place spacing label.id (Coordinate.ofNat 0) y
        ⟨block.nodes ++ [endBlock spacing label.id block], label.flowEdges, endBlockId label.id,
          block.nextY⟩ := by
  simp [layoutLabel, check_bind_eq_ok_iff, pure, Except.pure, @eq_comm _ _ part]

theorem edges_layoutLabel {part : LabelLayout α}
    (drawn : label.layoutLabel spacing y = .ok part) : part.edges = label.flowEdges := by
  rw [(layoutLabel_eq_ok_iff.1 drawn).2]

end Node

namespace Tree

variable {α : Type} [Coordinate α] {spacing : Spacing α} {y : α} {g : Graph α}

/-! ## The picture of a script -/

/-- What is drawn are labels at top level. -/
theorem mem_drawn_iff {t : Tree} {filter : LabelFilter} {label : Node} :
    label ∈ t.drawn filter ↔
      label ∈ t.children ∧ label.isLabel = true ∧ filter.accepts label = true := by
  rw [drawn, labels, List.mem_filter, List.mem_filter, and_assoc]

theorem layoutLabels_nil_eq_ok_iff : layoutLabels spacing y [] = .ok g ↔ g = {} := by
  simp [layoutLabels, @eq_comm _ _ g]

theorem layoutLabels_cons_eq_ok_iff {label : Node} {labels : List Node} :
    layoutLabels spacing y (label :: labels) = .ok g ↔ ∃ part below,
      label.layoutLabel spacing y = .ok part ∧
        layoutLabels spacing (nextLabelY spacing part.endY) labels = .ok below ∧
        g = ⟨part.nodes ++ below.nodes, part.edges ++ below.edges⟩ := by
  simp [layoutLabels, bind_eq_ok_iff, pure, Except.pure, @eq_comm _ _ g]

/-- Where a script can be drawn, each of its labels can. -/
theorem exists_layoutLabel {labels : List Node} (drawn : layoutLabels spacing y labels = .ok g) :
    ∀ label ∈ labels, ∃ y part, label.layoutLabel spacing y = .ok part := by
  induction labels generalizing y g with
  | nil => simp
  | cons label labels ih =>
    obtain ⟨part, below, first, others, rfl⟩ := layoutLabels_cons_eq_ok_iff.1 drawn
    exact List.forall_mem_cons.2 ⟨⟨y, part, first⟩, ih others⟩

theorem layout_eq_ok_iff {t : Tree} {filter : LabelFilter} :
    t.layout spacing filter = .ok g ↔ ∃ whole,
      layoutLabels spacing (Coordinate.ofNat 0) (t.drawn filter) = .ok whole ∧
        g = whole.dedupEdges := by
  simp [layout, bind_eq_ok_iff, pure, Except.pure, @eq_comm _ _ g]

end Tree

end StoryScript
