import Mathlib.Logic.Relation
import StoryScript.Proofs.BoxOrder

/-!
# Every box can be reached

A label is entered at the top. When nothing below it ends the script, control may come from there to
every statement, and on to the end block. The induction goes down the tree and keeps both at once:
from a statement one comes to all below it, and to what follows it; the first needs the second for
the statements of a row that come later.

## Main definitions

* `Edge.Leads`, `Edge.Reaches` — one arrow, and arrows one after another, from id to id.
* `Node.Passable` — from a statement one comes to all below it, and to what follows it.

## Main statements

* `passable_row`, `passable_options` — the same for rows and for options.
* `passable` — nothing stops control in a statement below which nothing ends the script.
* `layoutLabel_reachable` — the boxes of a label can be reached from its first.
-/

namespace StoryScript

namespace Edge

/-- One of the arrows leads from an id to another. -/
def Leads (edges : List Edge) (source target : String) : Prop :=
  ∃ e ∈ edges, e.source = source ∧ e.target = target

/-- The arrows lead from an id to another, one after the other. -/
def Reaches (edges : List Edge) : String → String → Prop :=
  Relation.ReflTransGen (Leads edges)

theorem reaches_between {edges : List Edge} {source target : String} {label : Option String}
    (mem : between source target label ∈ edges) : Reaches edges source target :=
  .single ⟨_, mem, rfl, rfl⟩

end Edge

namespace Node

open Edge

variable {edges : List Edge} {next : String}

/-- From a statement one comes to all below it, and to what follows it. -/
structure Passable (edges : List Edge) (next : String) (n : Node) : Prop where
  inside : ∀ m ∈ n.preorder, Reaches edges n.id m.id
  through : Reaches edges n.id next

theorem inside_of_below {n : Node}
    (below : ∀ m ∈ preorderAll n.children, Reaches edges n.id m.id) :
    ∀ m ∈ n.preorder, Reaches edges n.id m.id := by
  rw [preorder_eq, List.forall_mem_cons]
  exact ⟨.refl, below⟩

/-- A statement with nothing below it leads on, unless it ends the script. -/
theorem passable_bare {n : Node} (bare : n.children = []) (endless : n.kind ≠ .ending)
    (flow : leave n.id n.kind next ⊆ edges) : Passable edges next n where
  inside := inside_of_below (by simp [bare, preorderAll])
  through := by
    have leaves : Edge.between n.id next ∈ edges := flow (by simp [leave, endless])
    exact reaches_between leaves

section Below

variable {ns : List Node}
  (each : ∀ n ∈ ns, ∀ next, n.flow next ⊆ edges → Passable edges next n)

include each

/-- From where control enters a row one comes to all statements of it, and to what follows it. -/
theorem passable_row (flow : flowAll next ns ⊆ edges) :
    (∀ m ∈ preorderAll ns, Reaches edges (entrance next ns) m.id) ∧
      Reaches edges (entrance next ns) next := by
  induction ns with
  | nil => exact ⟨by simp [preorderAll], .refl⟩
  | cons n ns ih =>
    rw [List.forall_mem_cons] at each
    rw [flowAll, List.append_subset] at flow
    have first := each.1 _ flow.1
    obtain ⟨later, behind⟩ := ih each.2 flow.2
    refine ⟨fun m mem => ?_, first.through.trans behind⟩
    rcases List.mem_append.1 mem with here | there
    · exact first.inside m here
    · exact first.through.trans (later m there)

/-- From a menu one comes to all its options and the statements below them, and past each. -/
theorem passable_options {menu : String} (flow : flowOptions menu next ns ⊆ edges) :
    (∀ m ∈ preorderAll ns, Reaches edges menu m.id) ∧
      ∀ o ∈ ns, Reaches edges menu next := by
  induction ns with
  | nil => simp [preorderAll]
  | cons o os ih =>
    rw [List.forall_mem_cons] at each
    rw [flowOptions, List.cons_subset, List.append_subset] at flow
    have into := reaches_between flow.1
    have option := each.1 _ flow.2.1
    obtain ⟨others, past⟩ := ih each.2 flow.2.2
    refine ⟨fun m mem => ?_, List.forall_mem_cons.2 ⟨into.trans option.through, past⟩⟩
    rcases List.mem_append.1 mem with here | there
    · exact into.trans (option.inside m here)
    · exact others m there

end Below

/-- Where nothing below a statement ends the script, its arrows lead to all below it and past it. -/
theorem passable {n : Node} (endless : ∀ m ∈ n.preorder, m.kind ≠ .ending)
    (flow : n.flow next ⊆ edges) : Passable edges next n := by
  induction n using Node.induction generalizing next with
  | step n ih =>
    have each : ∀ c ∈ n.children, ∀ next, c.flow next ⊆ edges → Passable edges next c :=
      fun c child next => ih c child fun m below =>
        endless m (mem_preorder.2 (.inr ⟨c, child, below⟩))
    have own := endless n n.mem_preorder_self
    obtain ⟨id, kind, caption, s, e, body⟩ := n
    rcases body with (_ | ⟨c, cs⟩) | ⟨ts, fs⟩ | (_ | ⟨o, os⟩) | _
    · exact passable_bare rfl own flow
    · rw [Node.flow, List.cons_subset] at flow
      have down := reaches_between flow.1
      obtain ⟨inside, through⟩ := passable_row each flow.2
      exact ⟨inside_of_below fun m mem => down.trans (inside m mem), down.trans through⟩
    · rw [Node.flow, List.cons_subset, List.cons_subset, List.append_subset] at flow
      obtain ⟨intoTrue, intoFalse, onTrue, onFalse⟩ := flow
      have whenTrue := reaches_between intoTrue
      have whenFalse := reaches_between intoFalse
      have trueRow := passable_row (fun c mem => each c (List.mem_append_left fs mem)) onTrue
      have falseRow := passable_row (fun c mem => each c (List.mem_append_right ts mem)) onFalse
      refine ⟨inside_of_below fun m mem => ?_, whenTrue.trans trueRow.2⟩
      rw [children, Body.toList, preorderAll_append, List.mem_append] at mem
      rcases mem with mem | mem
      · exact whenTrue.trans (trueRow.1 m mem)
      · exact whenFalse.trans (falseRow.1 m mem)
    · exact passable_bare rfl own flow
    · obtain ⟨inside, past⟩ := passable_options each flow
      exact ⟨inside_of_below inside, past o List.mem_cons_self⟩
    · exact passable_bare rfl own flow

/-- Let a label be drawn below which nothing ends the script; ids may repeat. Its boxes are those of
its statements and the end block, and all of them can be reached from the label along its arrows. -/
theorem layoutLabel_reachable {α : Type} [Coordinate α] {spacing : Spacing α} {label : Node} {y : α}
    {part : LabelLayout α} (endless : ∀ n ∈ label.preorder, n.kind ≠ .ending)
    (drawn : label.layoutLabel spacing y = .ok part) :
    part.nodes.map Box.shown = label.legend ∧
      ∀ b ∈ part.nodes, Reaches part.edges label.id b.id := by
  have shown := shown_layoutLabel drawn
  refine ⟨shown, fun b mem => ?_⟩
  have found : label.flow (endBlockId label.id) ⊆ part.edges := by
    rw [edges_layoutLabel drawn]
    exact List.subset_append_left _ _
  obtain ⟨inside, through⟩ := passable endless found
  have legend : b.shown ∈ label.legend := shown ▸ List.mem_map_of_mem mem
  rcases List.mem_append.1 legend with statement | last
  · obtain ⟨n, below, same⟩ := List.mem_map.1 statement
    obtain ⟨id_eq, -⟩ := Prod.mk.inj same
    exact id_eq ▸ inside n below
  · obtain ⟨id_eq, -⟩ := Prod.mk.inj (List.mem_singleton.1 last)
    exact id_eq ▸ through

/-- A menu whose first option is empty stands in the false branch of a condition, the true branch is
empty, and what comes last has the id of an option. -/
theorem layoutLabel_reachable_empty_branch :
    let say (id : String) (line : Nat) : Node := ⟨id, .action, id, line, line, .leaf⟩
    let menu : Node := ⟨"m", .menuBlock, "menu", 2, 5,
      .choice [⟨"o", .menuOption, "stay", 3, 3, .sequence []⟩,
        ⟨"p", .menuOption, "go", 4, 5, .sequence [say "x" 5]⟩]⟩
    let test : Node := ⟨"i", .ifBlock, "if x", 1, 5, .conditional [] [menu]⟩
    let label : Node := ⟨"a", .labelBlock, "a", 0, 6, .sequence [test, say "o" 6]⟩
    (∀ n ∈ label.preorder, n.kind ≠ .ending) ∧
      ∃ part, label.layoutLabel Spacing.standard 0 = .ok part ∧
        part.nodes.map (·.id) = ["a", "i", "m", "o", "p", "x", "o", "end-a"] ∧
        ∀ b ∈ part.nodes, Reaches part.edges "a" b.id := by
  intro say menu test label
  have endless : ∀ n ∈ label.preorder, n.kind ≠ .ending := by decide +kernel
  obtain ⟨part, drawn⟩ : ∃ part, label.layoutLabel Spacing.standard 0 = .ok part := ⟨_, rfl⟩
  obtain ⟨shown, reachable⟩ := layoutLabel_reachable endless drawn
  refine ⟨endless, part, drawn, ?_, reachable⟩
  rw [← Box.map_fst_shown, shown]
  decide +kernel

end Node

end StoryScript
