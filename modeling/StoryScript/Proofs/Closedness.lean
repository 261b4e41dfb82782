import StoryScript.Proofs.ArrowIds
import StoryScript.Proofs.BoxOrder

/-!
# The picture of a label is closed

An arrow names its ends by their ids, often before the box that it leads to is placed, and the
arrows to the end block are added for all ids that no arrow has left. So what holds of the ids has to
hold however many statements share one.

## Main statements

* `map_id_layoutLabel` — the ids of the boxes are those of the blocks of the label.
* `ends_mem_blockIds` — arrows lead from a statement of their label to a block of it.
* `exists_arrow_out` — every statement has an arrow with its id to leave by.
* `layoutLabel_closed` — so a picture holds both ends of its arrows, and no box but the last is a
  dead end.
-/

namespace StoryScript

namespace Node

theorem map_id_layoutLabel {α : Type} [Coordinate α] {spacing : Spacing α} {label : Node} {y : α}
    {part : LabelLayout α} (drawn : label.layoutLabel spacing y = .ok part) :
    part.nodes.map (·.id) = blockIds [label] := by
  rw [← Box.map_fst_shown, shown_layoutLabel drawn, legend, List.map_append, List.map_map, blockIds,
    preorderAll, preorderAll, List.append_nil]
  rfl

variable {label : Node}

/-- Arrows lead from a statement of their label to a block of it. -/
theorem ends_mem_blockIds {e : Edge} (he : e ∈ label.flowEdges) :
    e.source ∈ label.preorder.map (·.id) ∧ e.target ∈ blockIds [label] := by
  have here : label ∈ [label] := List.mem_singleton_self label
  rcases List.mem_append.1 he with found | added
  · obtain ⟨n, next, met, -, leaves⟩ :=
      (mem_arrows_flow (endBlockId label.id)).1 (List.mem_map_of_mem found)
    have passage : ⟨endBlockId label.id, n, next⟩ ∈ passages [label] :=
      List.mem_flatMap.2 ⟨label, here, List.mem_map_of_mem met⟩
    have inside : n ∈ label.preorder := (mem_preorder_iff_followed _).2 ⟨next, met⟩
    have source : e.source = n.id := source_of_mem_departures leaves
    exact ⟨source ▸ List.mem_map_of_mem inside, target_mem_blockIds passage leaves⟩
  · obtain ⟨n, dangling, rfl⟩ := List.mem_map.1 added
    exact ⟨List.mem_map_of_mem (List.mem_filter.1 dangling).1, endBlockId_mem_blockIds here⟩

/-- An arrow leaves every statement of a label, if not for its own sake then for that of another
statement with its id. -/
theorem exists_arrow_out (kind : label.kind = .labelBlock) {n : Node} (hn : n ∈ label.preorder) :
    ∃ e ∈ label.flowEdges, e.source = n.id := by
  cases left : (label.flow (endBlockId label.id)).any (·.source == n.id) with
  | true =>
    obtain ⟨e, he, source⟩ := List.any_eq_true.1 left
    exact ⟨e, List.mem_append_left _ he, by simpa using source⟩
  | false =>
    have other : n.id ≠ label.id := by
      intro same
      obtain ⟨e, he, source⟩ :=
        exists_flow_from label.mem_preorder_self (stuck_of_labelBlock kind) (endBlockId label.id)
      have none := List.any_eq_false.1 left e he
      simp [source, same] at none
    have dangling : n ∈ label.preorder.filter fun n => n.id != label.id &&
        !(label.flow (endBlockId label.id)).any (·.source == n.id) :=
      List.mem_filter.2 ⟨hn, by simp [other, left]⟩
    exact ⟨_, List.mem_append_right _ (List.mem_map_of_mem dangling), rfl⟩

/-- Let a label be drawn; ids may repeat. Both ends of every arrow are ids of boxes of its picture,
so no arrow leads to a box of another picture with which it does not share an id. For every
statement an arrow leaves a box with its id. -/
theorem layoutLabel_closed {α : Type} [Coordinate α] {spacing : Spacing α} {label : Node} {y : α}
    {part : LabelLayout α} (kind : label.kind = .labelBlock)
    (drawn : label.layoutLabel spacing y = .ok part) :
    (∀ e ∈ part.edges, e.source ∈ part.nodes.map (·.id) ∧ e.target ∈ part.nodes.map (·.id)) ∧
      (∀ (m : Node) (y' : α) (other : LabelLayout α), m.layoutLabel spacing y' = .ok other →
        (∀ b ∈ part.nodes, ∀ c ∈ other.nodes, b.id ≠ c.id) →
          ∀ e ∈ part.edges, ∀ c ∈ other.nodes, e.target ≠ c.id) ∧
      ∀ n ∈ label.preorder, ∃ e ∈ part.edges, e.source = n.id := by
  have ids := map_id_layoutLabel drawn
  have closed : ∀ e ∈ part.edges,
      e.source ∈ part.nodes.map (·.id) ∧ e.target ∈ part.nodes.map (·.id) := by
    intro e he
    rw [edges_layoutLabel drawn] at he
    obtain ⟨source, target⟩ := ends_mem_blockIds he
    obtain ⟨n, inside, id_eq⟩ := List.mem_map.1 source
    rw [ids]
    exact ⟨id_eq ▸ id_mem_blockIds (List.mem_singleton_self label) inside, target⟩
  refine ⟨closed, ?_, ?_⟩
  · intro m y' other _ apart e he c hc leads
    obtain ⟨b, hb, id_eq⟩ := List.mem_map.1 (closed e he).2
    exact apart b hb c hc (id_eq.trans leads)
  · intro n hn
    rw [edges_layoutLabel drawn]
    exact exists_arrow_out kind hn

/-- An action and the end of the script in the other branch have the same id, what comes behind the
condition ends the script and has the id of the end block. -/
theorem layoutLabel_closed_shared_id :
    let stop (id : String) (line : Nat) : Node := ⟨id, .ending, "return", line, line, .leaf⟩
    let say : Node := ⟨"x", .action, "say", 2, 2, .leaf⟩
    let test : Node := ⟨"i", .ifBlock, "if y", 1, 3, .conditional [say] [stop "x" 3]⟩
    let label : Node := ⟨"a", .labelBlock, "a", 0, 4, .sequence [test, stop "end-a" 4]⟩
    label.kind = .labelBlock ∧ ∃ part, label.layoutLabel Spacing.standard 0 = .ok part ∧
      part.edges.map Edge.arrow = [("a", "i", none), ("i", "x", some "True"),
        ("i", "x", some "False"), ("x", "end-a", none), ("end-a", "end-a", none)] ∧
      (∀ e ∈ part.edges,
        e.source ∈ part.nodes.map (·.id) ∧ e.target ∈ part.nodes.map (·.id)) ∧
      ∀ n ∈ label.preorder, ∃ e ∈ part.edges, e.source = n.id := by
  intro stop say test label
  obtain ⟨part, drawn⟩ : ∃ part, label.layoutLabel Spacing.standard 0 = .ok part := ⟨_, rfl⟩
  obtain ⟨closed, -, left⟩ := layoutLabel_closed rfl drawn
  refine ⟨rfl, part, drawn, ?_, closed, left⟩
  rw [edges_layoutLabel drawn]
  decide +kernel

end Node

end StoryScript
