import Mathlib.Data.Set.Prod
import Mathlib.Order.CompletePartialOrder
import Mathlib.Order.Interval.Set.Disjoint
import Mathlib.Tactic.NormNum
import Mathlib.Tactic.Tauto
import StoryScript.Graph.Exact
import StoryScript.Proofs.BoxOrder

/-!
# No boxes overlap

With exact positions, every two boxes of a picture are beside or below each other. A block keeps
this while it grows: it knows its extent, and below which row it has no boxes. Statements under each
other begin where those above end, and blocks that are moved side by side are moved by their
extents.

## Main definitions

* `Box.area`, `Box.Clear` — the points that a box covers, and boxes beside or below each other.
* `Block.Stacked` — the boxes of a block are clear of each other, between two rows.
* `Block.Aside` — every box of one block is clear of every box of another.
* `EndsBelow` — the boxes of a label, and its end block further down than all of them.

## Main statements

* `Stacked.absorb`, `stacked_row` — putting blocks together, and moving them side by side.
* `stacked_place` — the block of a statement, by induction on what stands below it.
* `layout_disjoint` — no two boxes of a picture have a point in common.
-/

namespace StoryScript

variable {s : Spacing ℚ} {labelId : String}

/-! ## Boxes -/

namespace Box

/-- The points that a box covers: its upper and its left edge belong to it. -/
def area (s : Spacing ℚ) (b : Box ℚ) : Set (ℚ × ℚ) :=
  Set.Ico b.position.x (b.position.x + s.nodeWidth) ×ˢ
    Set.Ico b.position.y (b.position.y + s.nodeHeight)

/-- One of the boxes ends where the other one begins or before, sideways or downwards. -/
def Clear (s : Spacing ℚ) (a b : Box ℚ) : Prop :=
  (a.position.x + s.nodeWidth ≤ b.position.x ∨ b.position.x + s.nodeWidth ≤ a.position.x) ∨
    a.position.y + s.nodeHeight ≤ b.position.y ∨ b.position.y + s.nodeHeight ≤ a.position.y

theorem Clear.symm {a b : Box ℚ} (h : a.Clear s b) : b.Clear s a :=
  h.imp Or.symm Or.symm

theorem Clear.disjoint {a b : Box ℚ} (h : a.Clear s b) : Disjoint (a.area s) (b.area s) := by
  rw [area, area, Set.disjoint_prod, Set.Ico_disjoint_Ico, Set.Ico_disjoint_Ico]
  simp only [min_le_iff, le_max_iff]
  unfold Clear at h
  tauto

end Box

/-! ## Blocks -/

namespace Block

variable {a b : Block ℚ}

/-- The boxes of a block stand clear of each other, none higher than `top` and all of them, with the
gap below, higher than the next row. -/
structure Stacked (s : Spacing ℚ) (top : ℚ) (b : Block ℚ) : Prop where
  fits : b.Fits s
  start : top ≤ b.nextY
  below : ∀ box ∈ b.nodes, top ≤ box.position.y
  above : ∀ box ∈ b.nodes, box.position.y + s.rowStep ≤ b.nextY
  clear : b.nodes.Pairwise (Box.Clear s)

/-- Every box of the one block is clear of every box of the other. -/
def Aside (s : Spacing ℚ) (a b : Block ℚ) : Prop :=
  ∀ p ∈ a.nodes, ∀ q ∈ b.nodes, p.Clear s q

theorem Aside.symm (h : Aside s a b) : Aside s b a :=
  fun p hp q hq => (h q hq p hp).symm

variable {top branchY : ℚ}

theorem stacked_empty (y : ℚ) : Stacked s y (empty y) :=
  ⟨fits_empty y, le_rfl, by simp [empty], by simp [empty], by simp [empty]⟩

theorem Stacked.shift (h : Stacked s top b) (dx : ℚ) : Stacked s top (b.shift dx) where
  fits := h.fits.shift dx
  start := h.start
  below := by
    intro box mem
    obtain ⟨old, there, rfl⟩ := List.mem_map.1 mem
    exact h.below old there
  above := by
    intro box mem
    obtain ⟨old, there, rfl⟩ := List.mem_map.1 mem
    exact h.above old there
  clear := by
    refine List.pairwise_map.2 (h.clear.imp fun {p q} apart => ?_)
    simp only [Box.Clear] at apart ⊢
    rcases apart with (apart | apart) | apart
    · exact .inl (.inl (by linarith))
    · exact .inl (.inr (by linarith))
    · exact .inr apart

/-- Blocks that are aside of each other can be put together. -/
theorem Stacked.absorb (ha : Stacked s top a) (hb : Stacked s branchY b) (le : top ≤ branchY)
    (aside : Aside s a b) : Stacked s top (a.absorb b) where
  fits := ha.fits.absorb hb.fits
  start := ha.start.trans (le_max_left _ _)
  below := by
    intro box mem
    rcases List.mem_append.1 mem with mem | mem
    · exact ha.below box mem
    · exact le.trans (hb.below box mem)
  above := by
    intro box mem
    rcases List.mem_append.1 mem with mem | mem
    · exact (ha.above box mem).trans (le_max_left _ _)
    · exact (hb.above box mem).trans (le_max_right _ _)
  clear := List.pairwise_append.2 ⟨ha.clear, hb.clear, aside⟩

theorem Aside.absorb {c : Block ℚ} (ha : Aside s a c) (hb : Aside s b c) :
    Aside s (a.absorb b) c := by
  intro p hp
  rcases List.mem_append.1 hp with hp | hp
  · exact ha p hp
  · exact hb p hp

section Sound

variable (sound : s.Sound)

include sound

theorem nodeHeight_le_rowStep : s.nodeHeight ≤ s.rowStep := by
  rw [Spacing.rowStep_eq]
  linarith [sound.vertical]

theorem stacked_single (n : Node) (x y : ℚ) : Stacked s y (single s labelId n x y) where
  fits := fits_single n x y
  start := by
    have := nodeHeight_le_rowStep sound
    have := sound.height
    simp only [single]
    linarith
  below := by simp [single]
  above := by simp [single]
  clear := by simp [single]

/-- What begins where a block ends is aside of it. -/
theorem Stacked.aside (ha : Stacked s top a) (hb : Stacked s a.nextY b) : Aside s a b := by
  intro p hp q hq
  have ends := ha.above p hp
  have begins := hb.below q hq
  have := nodeHeight_le_rowStep sound
  exact .inr (.inl (by linarith))

/-- Of blocks that are moved to a row none reaches out of it to the left, and every two are aside
of each other. -/
theorem aside_rowFrom {bs : List (Block ℚ)} (fits : ∀ b ∈ bs, b.Fits s) (cursor : ℚ) :
    (∀ b ∈ rowFrom cursor s.horizontalGap bs, ∀ box ∈ b.nodes, cursor ≤ box.position.x) ∧
      (rowFrom cursor s.horizontalGap bs).Pairwise (Aside s) := by
  induction bs generalizing cursor with
  | nil => simp [rowFrom]
  | cons b bs ih =>
    rw [List.forall_mem_cons] at fits
    cases bounds : b.bounds with
    | none =>
      -- a block without extent has no boxes, so it may stay where it is
      have bare : b.nodes = [] := fits.1.nodes_eq_nil bounds
      obtain ⟨left, aside⟩ := ih fits.2 cursor
      simp only [rowFrom, bounds]
      refine ⟨List.forall_mem_cons.2 ⟨by simp [bare], left⟩, ?_⟩
      exact List.pairwise_cons.2 ⟨fun c _ => by simp [Aside, bare], aside⟩
    | some e =>
      obtain ⟨left, aside⟩ := ih fits.2 (cursor + (e.width + s.horizontalGap))
      have width := fits.1.nodeWidth_le bounds
      have moved := fits.1.moved bounds cursor
      simp only [rowFrom, bounds]
      constructor
      · refine List.forall_mem_cons.2 ⟨fun box mem => (moved box mem).1, fun c mem box hbox => ?_⟩
        linarith [left c mem box hbox, sound.width, sound.horizontal]
      · refine List.pairwise_cons.2 ⟨fun c mem p hp q hq => .inl (.inl ?_), aside⟩
        linarith [(moved p hp).2, left c mem q hq, sound.horizontal]

end Sound

theorem stacked_rowFrom {bs : List (Block ℚ)} (each : ∀ b ∈ bs, Stacked s top b) (cursor gap : ℚ) :
    ∀ b ∈ rowFrom cursor gap bs, Stacked s top b := by
  induction bs generalizing cursor with
  | nil => simp [rowFrom]
  | cons b bs ih =>
    rw [List.forall_mem_cons] at each
    unfold rowFrom
    split
    · exact List.forall_mem_cons.2 ⟨each.1, ih each.2 _⟩
    · exact List.forall_mem_cons.2 ⟨each.1.shift _, ih each.2 _⟩

/-- Blocks in a row stay as they were, and are aside of each other. -/
theorem stacked_row (sound : s.Sound) {bs : List (Block ℚ)} (each : ∀ b ∈ bs, Stacked s top b)
    (center : ℚ) :
    (∀ b ∈ row center s.horizontalGap bs, Stacked s top b) ∧
      (row center s.horizontalGap bs).Pairwise (Aside s) :=
  ⟨stacked_rowFrom each _ _, (aside_rowFrom sound (fun b mem => (each b mem).fits) _).2⟩

/-- Blocks side by side can be put to one that they are all aside of. They all begin at one height,
which the block above outgrows with the first of them: what keeps them clear is that they are aside
of each other. -/
theorem Stacked.foldl_absorb {bs : List (Block ℚ)} (ha : Stacked s top a) (le : top ≤ branchY)
    (each : ∀ b ∈ bs, Stacked s branchY b ∧ Aside s a b) (aside : bs.Pairwise (Aside s)) :
    Stacked s top (bs.foldl Block.absorb a) := by
  induction bs generalizing a with
  | nil => exact ha
  | cons b bs ih =>
    rw [List.forall_mem_cons] at each
    rw [List.pairwise_cons] at aside
    refine ih (ha.absorb each.1.1 le each.1.2) (fun c mem => ?_) aside.2
    exact ⟨(each.2 c mem).1, (each.2 c mem).2.absorb (aside.1 c mem)⟩

end Block

namespace Node

open Block

variable (sound : s.Sound)

include sound

/-- Blocks side by side fit below the box of a statement. -/
theorem stacked_branches {bs : List (Block ℚ)} {n : Node} {x y : ℚ}
    (each : ∀ b ∈ bs, Stacked s (y + s.rowStep) b) (aside : bs.Pairwise (Aside s)) :
    Stacked s y (bs.foldl absorb (single s labelId n x y)) := by
  have top : Stacked s y (single s labelId n x y) := stacked_single sound n x y
  exact top.foldl_absorb top.start (fun b mem => ⟨each b mem, top.aside sound (each b mem)⟩) aside

section Below

variable {ns : List Node} (each : ∀ n ∈ ns, ∀ x y, Stacked s y (n.place s labelId x y))

include each

theorem stacked_placeAll {top x : ℚ} {above : Block ℚ} (h : Stacked s top above) :
    Stacked s top (placeAll s labelId x above ns) := by
  induction ns generalizing above with
  | nil => exact h
  | cons n ns ih =>
    rw [List.forall_mem_cons] at each
    have next := each.1 x above.nextY
    exact ih each.2 (h.absorb next h.start (h.aside sound next))

omit sound in
theorem stacked_placeOptions {x y : ℚ} :
    ∀ b ∈ placeOptions s labelId x y ns, Stacked s y b := by
  induction ns with
  | nil => simp [placeOptions]
  | cons n ns ih =>
    rw [List.forall_mem_cons] at each
    exact List.forall_mem_cons.2 ⟨each.1 x y, ih each.2⟩

end Below

/-- The boxes of a statement and of those below it do not overlap. -/
theorem stacked_place (n : Node) (x y : ℚ) : Stacked s y (n.place s labelId x y) := by
  induction n using Node.induction generalizing x y with
  | step n ih =>
    have top : Stacked s y (single s labelId n x y) := stacked_single sound n x y
    cases body : n.body with
    | sequence cs =>
      rw [children, body, Body.toList] at ih
      rw [place_sequence body]
      have below := stacked_placeAll sound ih (x := x) (stacked_empty (y + s.rowStep))
      exact top.absorb below top.start (top.aside sound below)
    | conditional ts fs =>
      rw [children, body, Body.toList] at ih
      rw [place_conditional body]
      have onTrue : Stacked s (y + s.rowStep) (placeAll s labelId x (.empty (y + s.rowStep)) ts) :=
        stacked_placeAll sound (fun m mem => ih m (List.mem_append_left fs mem)) (stacked_empty _)
      have onFalse : Stacked s (y + s.rowStep) (placeAll s labelId x (.empty (y + s.rowStep)) fs) :=
        stacked_placeAll sound (fun m mem => ih m (List.mem_append_right ts mem)) (stacked_empty _)
      obtain ⟨each, aside⟩ := stacked_row sound (List.forall_mem_cons.2 ⟨onFalse,
        List.forall_mem_singleton.2 onTrue⟩) (x + half s.nodeWidth)
      -- the row is put together from right to left, and being aside works both ways
      refine stacked_branches sound (fun b mem => each b (List.mem_reverse.1 mem)) ?_
      exact List.pairwise_reverse.2 (aside.imp Aside.symm)
    | choice os =>
      rw [children, body, Body.toList] at ih
      rw [place_choice body]
      obtain ⟨each, aside⟩ := stacked_row sound (stacked_placeOptions ih) (x + half s.nodeWidth)
      exact stacked_branches sound each aside
    | leaf =>
      rw [place_leaf body]
      exact top

end Node

/-! ## Labels -/

/-- The boxes of a label, and its end block, which is further down than all of them. -/
structure EndsBelow (s : Spacing ℚ) (label : Node) (boxes : List (Box ℚ)) (last : Box ℚ) :
    Prop where
  statements : boxes.map Box.shown = label.preorder.map (Node.shownUnder label.id)
  ending : last.shown = (endBlockId label.id, none)
  above : ∀ b ∈ boxes, b.position.y < last.position.y ∧
    b.position.y + s.nodeHeight ≤ last.position.y

/-- The boxes of a label, which begins at `y`, and its end block. -/
theorem Node.layoutLabel_clear (sound : s.Sound) {label : Node} {y : ℚ} {part : LabelLayout ℚ}
    (drawn : label.layoutLabel s y = .ok part) :
    part.nodes.Pairwise (Box.Clear s) ∧
      (∀ b ∈ part.nodes, y ≤ b.position.y ∧ b.position.y ≤ part.endY) ∧
      ∃ boxes last, part.nodes = boxes ++ [last] ∧ EndsBelow s label boxes last := by
  obtain ⟨-, rfl⟩ := layoutLabel_eq_ok_iff.1 drawn
  set block := label.place s label.id (Coordinate.ofNat 0) y
  have stacked : Block.Stacked s y block := stacked_place sound label _ y
  have higher : ∀ b ∈ block.nodes, b.position.y + s.nodeHeight ≤ block.nextY :=
    fun b mem => (add_le_add_right (Block.nodeHeight_le_rowStep sound) _).trans
      (stacked.above b mem)
  have lower : ∀ b ∈ block.nodes, b.position.y < block.nextY := by
    intro b mem
    linarith [higher b mem, sound.height]
  refine ⟨?_, ?_, block.nodes, endBlock s label.id block, rfl, ?_⟩
  · refine List.pairwise_append.2 ⟨stacked.clear, List.pairwise_singleton _ _, ?_⟩
    intro b mem last hlast
    rw [List.mem_singleton.1 hlast]
    exact .inr (.inl (higher b mem))
  · refine List.forall_mem_append.2 ⟨fun b mem => ⟨stacked.below b mem, (lower b mem).le⟩, ?_⟩
    exact List.forall_mem_singleton.2 ⟨stacked.start, le_rfl⟩
  · exact ⟨shown_place label _ y, rfl, fun b mem => ⟨lower b mem, higher b mem⟩⟩

namespace Tree

theorem nextLabelY_eq (endY : ℚ) :
    nextLabelY s endY = endY + s.nodeHeight + s.verticalGap * s.labelGapFactor := rfl

/-- The boxes of labels one after the other, the first of which begins at `y`. -/
theorem layoutLabels_clear (sound : s.Sound) {labels : List Node} {y : ℚ} {g : Graph ℚ}
    (drawn : layoutLabels s y labels = .ok g) :
    g.nodes.Pairwise (Box.Clear s) ∧ (∀ b ∈ g.nodes, y ≤ b.position.y) ∧
      ∃ parts : List (List (Box ℚ) × Box ℚ), g.nodes = parts.flatMap (fun p => p.1 ++ [p.2]) ∧
        List.Forall₂ (fun label p => EndsBelow s label p.1 p.2) labels parts := by
  induction labels generalizing y g with
  | nil =>
    obtain rfl := layoutLabels_nil_eq_ok_iff.1 drawn
    exact ⟨.nil, by simp, [], rfl, .nil⟩
  | cons label labels ih =>
    obtain ⟨part, below, first, others, rfl⟩ := layoutLabels_cons_eq_ok_iff.1 drawn
    obtain ⟨clear, within, boxes, last, nodes, ends⟩ := Node.layoutLabel_clear sound first
    obtain ⟨clear', later, parts, nodes', ends'⟩ := ih others
    have gap : 0 ≤ s.verticalGap * s.labelGapFactor := mul_nonneg sound.vertical sound.label
    have next : ∀ b ∈ below.nodes, part.endY + s.nodeHeight ≤ b.position.y := by
      intro b mem
      linarith [later b mem, nextLabelY_eq (s := s) part.endY]
    refine ⟨?_, ?_, (boxes, last) :: parts, by simp [nodes, nodes'], .cons ends ends'⟩
    · refine List.pairwise_append.2 ⟨clear, clear', fun p hp q hq => .inr (.inl ?_)⟩
      linarith [(within p hp).2, next q hq]
    · refine List.forall_mem_append.2 ⟨fun b mem => (within b mem).1, fun b mem => ?_⟩
      obtain ⟨top, inside⟩ : ∃ b, b ∈ part.nodes := ⟨last, by simp [nodes]⟩
      linarith [(within top inside).1, (within top inside).2, next b mem, sound.height]

/-- Let a script be drawn with exact positions, the boxes having a size and no gap being negative.
Then no two boxes have a point in common, whatever labels they are of. The boxes are those of the
labels that are drawn, one label after the other, and the end block of a label is further down than
all its statements, by the height of a box or more. -/
theorem layout_disjoint (sound : s.Sound) {t : Tree} {filter : LabelFilter} {g : Graph ℚ}
    (drawn : t.layout s filter = .ok g) :
    g.nodes.Pairwise (fun a b => Disjoint (a.area s) (b.area s)) ∧
      ∃ parts : List (List (Box ℚ) × Box ℚ), g.nodes = parts.flatMap (fun p => p.1 ++ [p.2]) ∧
        List.Forall₂ (fun label p => EndsBelow s label p.1 p.2) (t.drawn filter) parts := by
  obtain ⟨whole, laid, rfl⟩ := layout_eq_ok_iff.1 drawn
  obtain ⟨clear, -, parts⟩ := layoutLabels_clear sound laid
  exact ⟨clear.imp fun apart => apart.disjoint, parts⟩

/-- Without any gaps boxes touch, the options of a menu beside the true branch of a condition and
the second label below the first, and still do not overlap. -/
theorem layout_disjoint_touching :
    let say (id : String) (line : Nat) : Node := ⟨id, .action, id, line, line, .leaf⟩
    let option (id : String) (line : Nat) : Node :=
      ⟨id, .menuOption, id, line, line, .sequence [say "x" line]⟩
    let menu : Node := ⟨"m", .menuBlock, "menu", 3, 5, .choice [option "o" 4, option "p" 5]⟩
    let test : Node := ⟨"i", .ifBlock, "if x", 1, 5, .conditional [say "y" 2] [menu]⟩
    let t : Tree := ⟨[⟨"a", .labelBlock, "a", 0, 6, .sequence [test, say "z" 6]⟩,
      ⟨"b", .labelBlock, "b", 7, 8, .sequence [say "x" 8]⟩]⟩
    let s : Spacing ℚ := ⟨1, 1, 0, 0, 0⟩
    s.Sound ∧ ∃ g, t.layout s .all = .ok g ∧ g.nodes.length = 13 ∧
      g.nodes.Pairwise (fun a b => Disjoint (a.area s) (b.area s)) := by
  intro say option menu test t s
  have sound : s.Sound := by constructor <;> norm_num [s]
  obtain ⟨g, drawn⟩ : ∃ g, t.layout s .all = .ok g := ⟨_, rfl⟩
  have length : g.nodes.length = ((t.drawn .all).flatMap Node.legend).length := by
    rw [← shown_layout drawn, List.length_map]
  exact ⟨sound, g, drawn, length.trans (by decide +kernel), (layout_disjoint sound drawn).1⟩

end Tree

end StoryScript
