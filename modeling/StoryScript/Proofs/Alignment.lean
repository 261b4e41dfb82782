import Mathlib.Data.List.Chain
import Mathlib.Data.List.Forall2
import Mathlib.Tactic.Ring
import StoryScript.Graph.Exact
import StoryScript.Proofs.BoxOrder

/-!
# Branches stand centred under their box

With exact positions a picture is aligned on every level. Statements in a row have the left edge of
the box they belong to. Branches and options stand side by side, with one gap between each two, and
the middle of the row is that of the box above. A row is moved as a whole when the box above is, and
since a statement is placed alike wherever its left edge is, what stands below it stays aligned.

## Main definitions

* `Spacing.Nonneg` — no size and no gap is negative.
* `Box.Extent`, `Box.Row` — how far boxes reach, and groups of boxes in a row below a box.
* `Node.Aligned` — a picture of a statement in which it and all below it are aligned.
* `Bounds.sideBySide` — the extents of a row.
* `Block.Built` — what can be made of boxes by moving them and putting them together.

## Main statements

* `Block.row_map_nodes` — blocks that were moved to a row stand in one.
* `Node.shift_place` — a statement is placed alike wherever its left edge is.
* `Node.aligned_place` — the boxes of a statement, by induction on what stands below it.
* `Node.layoutLabel_aligned` — the picture of a label.
-/

namespace StoryScript

/-- No size and no gap is negative. -/
structure Spacing.Nonneg (s : Spacing ℚ) : Prop where
  width : 0 ≤ s.nodeWidth
  height : 0 ≤ s.nodeHeight
  vertical : 0 ≤ s.verticalGap
  horizontal : 0 ≤ s.horizontalGap

variable {s : Spacing ℚ} {labelId : String}

theorem half_eq (a : ℚ) : half a = a / 2 := by
  simp [half, Coordinate.ofNat]

/-! ## Extents side by side -/

namespace Bounds

/-- Extents of some widths side by side, the first of which begins at `cursor`. -/
def sideBySide (cursor gap : ℚ) : List ℚ → List (Bounds ℚ)
  | [] => []
  | w :: ws => ⟨cursor, cursor + w⟩ :: sideBySide (cursor + (w + gap)) gap ws

variable {cursor gap : ℚ} {ws : List ℚ}

theorem min_of_head?_sideBySide : ∀ e ∈ (sideBySide cursor gap ws).head?, e.min = cursor := by
  cases ws <;> simp [sideBySide]

theorem isChain_sideBySide :
    (sideBySide cursor gap ws).IsChain fun a b => b.min - a.max = gap := by
  induction ws generalizing cursor with
  | nil => exact .nil
  | cons w ws ih =>
    refine List.isChain_cons.2 ⟨fun e next => ?_, ih⟩
    rw [min_of_head?_sideBySide e next]
    ring

theorem rowWidth_cons_cons (gap w v : ℚ) (ws : List ℚ) :
    rowWidth gap (w :: v :: ws) = w + gap + rowWidth gap (v :: ws) := by
  have sum : ws.foldl (· + ·) (w + v) = w + ws.foldl (· + ·) v := List.foldl_assoc
  simp only [rowWidth, List.foldl_cons, List.length_cons, sum, Coordinate.ofNat]
  push_cast
  ring

theorem max_of_getLast?_sideBySide :
    ∀ e ∈ (sideBySide cursor gap ws).getLast?, e.max = cursor + rowWidth gap ws := by
  induction ws generalizing cursor with
  | nil => simp [sideBySide]
  | cons w ws ih =>
    cases ws with
    | nil => simp [sideBySide, rowWidth, Coordinate.ofNat]
    | cons v ws =>
      intro e last
      have last' : e ∈ (sideBySide (cursor + (w + gap)) gap (v :: ws)).getLast? := last
      rw [ih e last', rowWidth_cons_cons]
      ring

theorem pairwise_sideBySide (widths : ∀ w ∈ ws, 0 ≤ w) (nonneg : 0 ≤ gap) (cursor : ℚ) :
    (∀ e ∈ sideBySide cursor gap ws, cursor ≤ e.min) ∧
      (sideBySide cursor gap ws).Pairwise fun a b => a.max ≤ b.min := by
  induction ws generalizing cursor with
  | nil => simp [sideBySide]
  | cons w ws ih =>
    rw [List.forall_mem_cons] at widths
    obtain ⟨right, apart⟩ := ih widths.2 (cursor + (w + gap))
    refine ⟨List.forall_mem_cons.2 ⟨le_rfl, fun e mem => ?_⟩,
      List.pairwise_cons.2 ⟨fun e mem => ?_, apart⟩⟩
    · linarith [right e mem, widths.1]
    · dsimp only
      linarith [right e mem, widths.1]

end Bounds

/-! ## Aligned pictures -/

namespace Box

/-- The extent of some boxes, from the leftmost edge to the rightmost one. -/
structure Extent (s : Spacing ℚ) (boxes : List (Box ℚ)) (e : Bounds ℚ) : Prop where
  inside : ∀ box ∈ boxes, e.min ≤ box.position.x ∧ box.position.x + s.nodeWidth ≤ e.max
  left : ∃ box ∈ boxes, box.position.x = e.min
  right : ∃ box ∈ boxes, box.position.x + s.nodeWidth = e.max

/-- Groups of boxes in a row below a box. Each group begins right below the box. Those that are not
empty stand from left to right with gaps between them, and their middle is that of the box. -/
structure Row (s : Spacing ℚ) (top : Box ℚ) (groups : List (List (Box ℚ))) : Prop where
  heads : ∀ group ∈ groups, ∀ head ∈ group.head?,
    head.position.y = top.position.y + s.nodeHeight + s.verticalGap
  extents : ∃ es, List.Forall₂ (Extent s) (groups.filter (!·.isEmpty)) es ∧
    (es.Pairwise fun a b => a.max ≤ b.min) ∧
    (es.IsChain fun a b => b.min - a.max = s.horizontalGap) ∧
    ∀ first ∈ es.head?, ∀ last ∈ es.getLast?,
      (first.min + last.max) / 2 = top.position.x + s.nodeWidth / 2

end Box

namespace Node

/-- A picture of a statement under a label, and of all below it, in which everything is aligned.
Statements in a row share their left edge with the box that they belong to. Branches and options
stand in a row below their box, the false branch on the left. -/
inductive Aligned (s : Spacing ℚ) (labelId : String) : Node → List (Box ℚ) → Prop
  | sequence {n cs top parts} (body : n.body = .sequence cs)
      (shown : top.shown = n.shownUnder labelId) (each : List.Forall₂ (Aligned s labelId) cs parts)
      (column : ∀ part ∈ parts, ∀ head ∈ part.head?, head.position.x = top.position.x) :
      Aligned s labelId n (top :: parts.flatten)
  | conditional {n ts fs top onTrue onFalse} (body : n.body = .conditional ts fs)
      (shown : top.shown = n.shownUnder labelId)
      (eachTrue : List.Forall₂ (Aligned s labelId) ts onTrue)
      (eachFalse : List.Forall₂ (Aligned s labelId) fs onFalse)
      (row : Box.Row s top [onFalse.flatten, onTrue.flatten]) :
      Aligned s labelId n (top :: (onTrue.flatten ++ onFalse.flatten))
  | choice {n os top parts} (body : n.body = .choice os)
      (shown : top.shown = n.shownUnder labelId) (each : List.Forall₂ (Aligned s labelId) os parts)
      (row : Box.Row s top parts) : Aligned s labelId n (top :: parts.flatten)
  | leaf {n top} (body : n.body = .leaf) (shown : top.shown = n.shownUnder labelId) :
      Aligned s labelId n [top]

end Node

/-! ## Moving blocks sideways -/

namespace Block

theorem shift_shift (b : Block ℚ) (dx dy : ℚ) : (b.shift dx).shift dy = b.shift (dx + dy) := by
  cases bounds : b.bounds <;>
    simp [shift, bounds, Bounds.shift, add_assoc, Function.comp_def]

theorem shift_zero (b : Block ℚ) : b.shift 0 = b := by
  obtain ⟨nodes, nextY, bounds⟩ := b
  cases bounds <;> simp [shift, Bounds.shift]

theorem shift_absorb (a b : Block ℚ) (dx : ℚ) :
    (a.absorb b).shift dx = (a.shift dx).absorb (b.shift dx) := by
  obtain ⟨nodes, nextY, bounds⟩ := a
  obtain ⟨nodes', nextY', bounds'⟩ := b
  cases bounds <;> cases bounds' <;>
    simp [shift, absorb, Bounds.shift, Bounds.union_eq, min_add_add_right, max_add_add_right]

theorem shift_foldl_absorb (bs : List (Block ℚ)) (top : Block ℚ) (dx : ℚ) :
    (bs.foldl absorb top).shift dx = (bs.map (·.shift dx)).foldl absorb (top.shift dx) := by
  induction bs generalizing top with
  | nil => rfl
  | cons b bs ih => rw [List.foldl_cons, ih, shift_absorb, List.map_cons, List.foldl_cons]

theorem widths_map_shift (bs : List (Block ℚ)) (dx : ℚ) :
    widths (bs.map (·.shift dx)) = widths bs := by
  rw [widths, widths, List.filterMap_map]
  congr 1
  funext b
  cases bounds : b.bounds <;> simp [shift, bounds, Bounds.shift, Bounds.width]

theorem map_shift_rowFrom (cursor gap dx : ℚ) (bs : List (Block ℚ)) :
    (rowFrom cursor gap bs).map (·.shift dx) =
      rowFrom (cursor + dx) gap (bs.map (·.shift dx)) := by
  induction bs generalizing cursor with
  | nil => rfl
  | cons b bs ih =>
    cases bounds : b.bounds with
    | none =>
      have bounds' : (b.shift dx).bounds = none := by simp [shift, bounds]
      simp only [rowFrom, List.map_cons, bounds, bounds', ih]
    | some e =>
      have bounds' : (b.shift dx).bounds = some (e.shift dx) := by simp [shift, bounds]
      simp only [rowFrom, List.map_cons, bounds, bounds', ih, shift_shift]
      congr 2
      · simp only [Bounds.shift_eq]
        ring
      · simp only [Bounds.shift_eq, Bounds.width_eq]
        ring

theorem map_shift_row (center gap dx : ℚ) (bs : List (Block ℚ)) :
    (row center gap bs).map (·.shift dx) = row (center + dx) gap (bs.map (·.shift dx)) := by
  rw [row, row, map_shift_rowFrom, widths_map_shift]
  congr 1
  simp only [rowStart]
  ring

end Block

namespace Node

open Block

section Below

variable {ns : List Node}
  (each : ∀ n ∈ ns, ∀ x y dx : ℚ, (n.place s labelId x y).shift dx = n.place s labelId (x + dx) y)

include each

theorem shift_placeAll (x dx : ℚ) (above : Block ℚ) :
    (placeAll s labelId x above ns).shift dx =
      placeAll s labelId (x + dx) (above.shift dx) ns := by
  induction ns generalizing above with
  | nil => rfl
  | cons n ns ih =>
    rw [List.forall_mem_cons] at each
    rw [placeAll, placeAll, ih each.2, shift_absorb, each.1]
    rfl

end Below

/-- A statement is placed alike wherever its left edge is. -/
theorem shift_place (n : Node) (x y dx : ℚ) :
    (n.place s labelId x y).shift dx = n.place s labelId (x + dx) y := by
  induction n using Node.induction generalizing x y dx with
  | step n ih =>
    have top : (single s labelId n x y).shift dx = single s labelId n (x + dx) y := by
      simp [single, shift, Bounds.shift, add_right_comm]
    have start : (empty (y + s.rowStep)).shift dx = empty (y + s.rowStep) := rfl
    have center : x + half s.nodeWidth + dx = x + dx + half s.nodeWidth := by ring
    cases body : n.body with
    | sequence cs =>
      rw [children, body, Body.toList] at ih
      rw [place_sequence body, place_sequence body, shift_absorb, top, shift_placeAll ih, start]
    | conditional ts fs =>
      rw [children, body, Body.toList] at ih
      have onTrue : ∀ m ∈ ts, _ := fun m mem => ih m (List.mem_append_left fs mem)
      have onFalse : ∀ m ∈ fs, _ := fun m mem => ih m (List.mem_append_right ts mem)
      rw [place_conditional body, place_conditional body, shift_foldl_absorb, top, List.map_reverse,
        map_shift_row, center]
      simp only [List.map_cons, List.map_nil, shift_placeAll onTrue, shift_placeAll onFalse, start]
    | choice os =>
      rw [children, body, Body.toList] at ih
      rw [place_choice body, place_choice body, shift_foldl_absorb, top, map_shift_row, center,
        placeOptions_eq, placeOptions_eq, List.map_map]
      congr 2
      exact List.map_congr_left fun o mem => ih o mem x _ dx
    | leaf => rw [place_leaf body, place_leaf body, top]

end Node

/-! ## What holds of every block -/

namespace Block

/-- Blocks that come about by moving blocks and putting them together. -/
inductive Built (s : Spacing ℚ) (labelId : String) : Block ℚ → Prop
  | empty (y : ℚ) : Built s labelId (Block.empty y)
  | single (n : Node) (x y : ℚ) : Built s labelId (Block.single s labelId n x y)
  | shift {b} (h : Built s labelId b) (dx : ℚ) : Built s labelId (b.shift dx)
  | absorb {a b} (ha : Built s labelId a) (hb : Built s labelId b) : Built s labelId (a.absorb b)

variable {bs : List (Block ℚ)}

/-- Blocks in a row are the same blocks, each of them moved. -/
theorem forall₂_rowFrom (cursor gap : ℚ) (bs : List (Block ℚ)) :
    List.Forall₂ (fun a b => ∃ dx, b = a.shift dx) bs (rowFrom cursor gap bs) := by
  induction bs generalizing cursor with
  | nil => exact .nil
  | cons b bs ih =>
    unfold rowFrom
    split
    · exact .cons ⟨0, (shift_zero b).symm⟩ (ih _)
    · exact .cons ⟨_, rfl⟩ (ih _)

theorem forall₂_row (center gap : ℚ) (bs : List (Block ℚ)) :
    List.Forall₂ (fun a b => ∃ dx, b = a.shift dx) bs (row center gap bs) :=
  forall₂_rowFrom _ gap bs

theorem exists_of_mem_row {center gap : ℚ} {b : Block ℚ} (mem : b ∈ row center gap bs) :
    ∃ a ∈ bs, ∃ dx, b = a.shift dx := by
  obtain ⟨k, bound, rfl⟩ := List.mem_iff_getElem.1 mem
  have moved := forall₂_row center gap bs
  have bound' : k < bs.length := moved.length_eq ▸ bound
  exact ⟨bs[k], List.getElem_mem bound', moved.get bound' bound⟩

theorem exists_row_pair (center gap : ℚ) (a b : Block ℚ) :
    ∃ dx dx', row center gap [a, b] = [a.shift dx, b.shift dx'] := by
  obtain ⟨_, _, ⟨dx, rfl⟩, rest, row_eq⟩ :=
    List.forall₂_cons_left_iff.1 (forall₂_row center gap [a, b])
  obtain ⟨_, _, ⟨dx', rfl⟩, none_left, rfl⟩ := List.forall₂_cons_left_iff.1 rest
  obtain rfl := List.forall₂_nil_left_iff.1 none_left
  exact ⟨dx, dx', row_eq⟩

theorem Built.row (h : ∀ b ∈ bs, Built s labelId b) (center gap : ℚ) :
    ∀ b ∈ row center gap bs, Built s labelId b := by
  intro b mem
  obtain ⟨a, mem', dx, rfl⟩ := exists_of_mem_row mem
  exact (h a mem').shift dx

theorem Built.foldl_absorb {top : Block ℚ} (h : Built s labelId top)
    (each : ∀ b ∈ bs, Built s labelId b) : Built s labelId (bs.foldl Block.absorb top) := by
  induction bs generalizing top with
  | nil => exact h
  | cons b bs ih =>
    rw [List.forall_mem_cons] at each
    exact ih (h.absorb each.1) each.2

theorem Built.fits {b : Block ℚ} (h : Built s labelId b) : b.Fits s := by
  induction h with
  | empty y => exact fits_empty y
  | single n x y => exact fits_single n x y
  | shift _ dx ih => exact ih.shift dx
  | absorb _ _ iha ihb => exact iha.absorb ihb

/-- The next row begins below all boxes. -/
theorem Built.above {b : Block ℚ} (h : Built s labelId b) :
    ∀ box ∈ b.nodes, box.position.y + s.rowStep ≤ b.nextY := by
  induction h with
  | empty y => simp [Block.empty]
  | single n x y => simp [Block.single]
  | shift _ dx ih =>
    intro box mem
    obtain ⟨old, there, rfl⟩ := List.mem_map.1 mem
    exact ih old there
  | absorb _ _ iha ihb =>
    intro box mem
    rcases List.mem_append.1 mem with mem | mem
    · exact (iha box mem).trans (le_max_left _ _)
    · exact (ihb box mem).trans (le_max_right _ _)

end Block

namespace Node

open Block

section Below

variable {ns : List Node} (each : ∀ n ∈ ns, ∀ x y, Built s labelId (n.place s labelId x y))

include each

theorem built_placeAll {x : ℚ} {above : Block ℚ} (h : Built s labelId above) :
    Built s labelId (placeAll s labelId x above ns) := by
  induction ns generalizing above with
  | nil => exact h
  | cons n ns ih =>
    rw [List.forall_mem_cons] at each
    exact ih each.2 (h.absorb (each.1 x above.nextY))

end Below

theorem built_place (n : Node) (x y : ℚ) : Built s labelId (n.place s labelId x y) := by
  induction n using Node.induction generalizing x y with
  | step n ih =>
    have top : Built s labelId (single s labelId n x y) := .single n x y
    cases body : n.body with
    | sequence cs =>
      rw [children, body, Body.toList] at ih
      rw [place_sequence body]
      exact top.absorb (built_placeAll ih (.empty _))
    | conditional ts fs =>
      rw [children, body, Body.toList] at ih
      have onTrue := built_placeAll (x := x) (fun m mem => ih m (List.mem_append_left fs mem))
        (.empty (y + s.rowStep))
      have onFalse := built_placeAll (x := x) (fun m mem => ih m (List.mem_append_right ts mem))
        (.empty (y + s.rowStep))
      rw [place_conditional body]
      refine top.foldl_absorb fun b mem => Built.row ?_ _ _ b (List.mem_reverse.1 mem)
      exact List.forall_mem_cons.2 ⟨onFalse, List.forall_mem_singleton.2 onTrue⟩
    | choice os =>
      rw [children, body, Body.toList] at ih
      rw [place_choice body, placeOptions_eq]
      exact top.foldl_absorb (Built.row (List.forall_mem_map.2 fun o mem => ih o mem x _) _ _)
    | leaf =>
      rw [place_leaf body]
      exact top

end Node

/-! ## Blocks in a row -/

namespace Block

variable {bs : List (Block ℚ)}

/-- The blocks that have boxes are those that have an extent, which is the one of their boxes. -/
theorem forall₂_extent (fits : ∀ b ∈ bs, b.Fits s) :
    List.Forall₂ (Box.Extent s) ((bs.map nodes).filter (!·.isEmpty)) (bs.filterMap bounds) := by
  induction bs with
  | nil => exact .nil
  | cons b bs ih =>
    rw [List.forall_mem_cons] at fits
    cases extent : b.bounds with
    | none =>
      rw [List.filterMap_cons_none extent, List.map_cons, fits.1.nodes_eq_nil extent]
      exact ih fits.2
    | some e =>
      obtain ⟨box, mem, at_edge⟩ := fits.1.left e extent
      have some_there : b.nodes.isEmpty = false := by
        simpa using List.ne_nil_of_mem mem
      rw [List.filterMap_cons_some extent, List.map_cons,
        List.filter_cons_of_pos (by simp [some_there])]
      refine .cons ⟨fun box mem => ?_, ⟨box, mem, at_edge⟩, fits.1.right e extent⟩ (ih fits.2)
      obtain ⟨e', extent', inside⟩ := fits.1.inside box mem
      obtain rfl := Option.mem_unique extent extent'
      exact inside

theorem filterMap_bounds_rowFrom (cursor gap : ℚ) (bs : List (Block ℚ)) :
    (rowFrom cursor gap bs).filterMap bounds = Bounds.sideBySide cursor gap (widths bs) := by
  induction bs generalizing cursor with
  | nil => rfl
  | cons b bs ih =>
    cases extent : b.bounds with
    | none =>
      have widths_eq : widths (b :: bs) = widths bs := by simp [widths, extent]
      simp only [rowFrom, extent]
      rw [List.filterMap_cons_none extent, ih, widths_eq]
    | some e =>
      have widths_eq : widths (b :: bs) = e.width :: widths bs := by simp [widths, extent]
      have moved : (b.shift (cursor - e.min)).bounds = some ⟨cursor, cursor + e.width⟩ := by
        simp only [shift, extent, Option.map_some, Bounds.shift_eq, Bounds.width_eq]
        congr 2 <;> ring
      simp only [rowFrom, extent]
      rw [List.filterMap_cons_some moved, ih, widths_eq, Bounds.sideBySide]

/-- Blocks that begin right below a box are moved to a row below it. -/
theorem row_map_nodes (nonneg : s.Nonneg) (fits : ∀ b ∈ bs, b.Fits s) (top : Box ℚ)
    (heads : ∀ b ∈ bs, ∀ head ∈ b.nodes.head?, head.position.y = top.position.y + s.rowStep) :
    Box.Row s top ((row (top.position.x + half s.nodeWidth) s.horizontalGap bs).map nodes) where
  heads := by
    intro group mem head first
    obtain ⟨b, mem', rfl⟩ := List.mem_map.1 mem
    obtain ⟨a, there, dx, rfl⟩ := exists_of_mem_row mem'
    rw [shift, List.head?_map] at first
    obtain ⟨old, first', rfl⟩ := Option.map_eq_some_iff.1 first
    rw [heads a there old first', Spacing.rowStep_eq, add_assoc]
  extents := by
    have fits' : ∀ b ∈ row (top.position.x + half s.nodeWidth) s.horizontalGap bs, b.Fits s := by
      intro b mem
      obtain ⟨a, there, dx, rfl⟩ := exists_of_mem_row mem
      exact (fits a there).shift dx
    have widths_nonneg : ∀ w ∈ widths bs, 0 ≤ w := by
      intro w mem
      obtain ⟨b, there, width⟩ := List.mem_filterMap.1 mem
      obtain ⟨e, extent, rfl⟩ := Option.map_eq_some_iff.1 width
      exact nonneg.width.trans ((fits b there).nodeWidth_le extent)
    refine ⟨_, forall₂_extent fits', ?_⟩
    rw [row, filterMap_bounds_rowFrom]
    refine ⟨(Bounds.pairwise_sideBySide widths_nonneg nonneg.horizontal _).2,
      Bounds.isChain_sideBySide, fun first hfirst last hlast => ?_⟩
    rw [Bounds.min_of_head?_sideBySide first hfirst, Bounds.max_of_getLast?_sideBySide last hlast,
      rowStart, half_eq, half_eq]
    ring

end Block

/-! ## The boxes of a statement -/

namespace Node

open Block

/-- The box of a statement. -/
def boxAt (labelId : String) (n : Node) (x y : ℚ) : Box ℚ :=
  ⟨n.id, ⟨x, y⟩, some (.ofNode labelId n)⟩

theorem head?_place (n : Node) (x y : ℚ) :
    (n.place s labelId x y).nodes.head? = some (n.boxAt labelId x y) := by
  cases body : n.body with
  | sequence cs =>
    rw [place_sequence body]
    rfl
  | conditional ts fs =>
    rw [place_conditional body, nodes_foldl_absorb]
    rfl
  | choice os =>
    rw [place_choice body, nodes_foldl_absorb]
    rfl
  | leaf =>
    rw [place_leaf body]
    rfl

theorem head?_placeAll (ns : List Node) (x : ℚ) {above : Block ℚ} {box : Box ℚ}
    (first : above.nodes.head? = some box) :
    (placeAll s labelId x above ns).nodes.head? = some box := by
  induction ns generalizing above with
  | nil => exact first
  | cons n ns ih => exact ih (by simp [absorb, first])

/-- Statements under each other begin where there is nothing yet. -/
theorem position_of_head?_placeAll {ns : List Node} {x y : ℚ} :
    ∀ head ∈ (placeAll s labelId x (.empty y) ns).nodes.head?, head.position = ⟨x, y⟩ := by
  cases ns with
  | nil => simp [placeAll, empty]
  | cons n ns =>
    have first : (placeAll s labelId x (.empty y) (n :: ns)).nodes.head? =
        some (n.boxAt labelId x y) := head?_placeAll ns x (head?_place n x y)
    rw [first]
    rintro head ⟨⟩
    rfl

section Below

variable {ns : List Node}
  (each : ∀ n ∈ ns, ∀ x y, Aligned s labelId n (n.place s labelId x y).nodes)

include each

theorem exists_parts_placeAll (x : ℚ) (above : Block ℚ) :
    ∃ parts, (placeAll s labelId x above ns).nodes = above.nodes ++ parts.flatten ∧
      List.Forall₂ (Aligned s labelId) ns parts ∧
      ∀ part ∈ parts, ∀ head ∈ part.head?, head.position.x = x := by
  induction ns generalizing above with
  | nil => exact ⟨[], by simp [placeAll], .nil, by simp⟩
  | cons n ns ih =>
    rw [List.forall_mem_cons] at each
    obtain ⟨parts, nodes, aligned, column⟩ :=
      ih each.2 (above.absorb (n.place s labelId x above.nextY))
    refine ⟨_ :: parts, ?_, .cons (each.1 x above.nextY) aligned,
      List.forall_mem_cons.2 ⟨?_, column⟩⟩
    · rw [placeAll, nodes, absorb, List.flatten_cons, List.append_assoc]
    · rw [head?_place]
      rintro head ⟨⟩
      rfl

/-- A branch that is moved looks like one that was placed there. -/
theorem exists_parts_shift_placeAll (x y dx : ℚ) :
    ∃ parts, ((placeAll s labelId x (.empty y) ns).shift dx).nodes = parts.flatten ∧
      List.Forall₂ (Aligned s labelId) ns parts := by
  rw [shift_placeAll (fun n _ => shift_place n)]
  obtain ⟨parts, nodes, aligned, -⟩ := exists_parts_placeAll each (x + dx) ((empty y).shift dx)
  exact ⟨parts, nodes, aligned⟩

end Below

/-- The boxes of a statement are aligned, wherever it stands. -/
theorem aligned_place (nonneg : s.Nonneg) (n : Node) (x y : ℚ) :
    Aligned s labelId n (n.place s labelId x y).nodes := by
  induction n using Node.induction generalizing x y with
  | step n ih =>
    have shown : (n.boxAt labelId x y).shown = n.shownUnder labelId := rfl
    cases body : n.body with
    | sequence cs =>
      rw [children, body, Body.toList] at ih
      obtain ⟨parts, nodes, aligned, column⟩ :=
        exists_parts_placeAll ih x (.empty (y + s.rowStep))
      rw [place_sequence body, absorb, nodes]
      exact .sequence body shown aligned column
    | conditional ts fs =>
      rw [children, body, Body.toList] at ih
      set branch := placeAll s labelId x (.empty (y + s.rowStep)) with branch_eq
      have fits (ns : List Node) : (branch ns).Fits s :=
        (built_placeAll (fun m _ => built_place m) (.empty _)).fits
      have heads (ns : List Node) : ∀ head ∈ (branch ns).nodes.head?,
          head.position.y = y + s.rowStep :=
        fun head mem => by rw [position_of_head?_placeAll head mem]
      obtain ⟨dx, dx', row_eq⟩ :=
        exists_row_pair (x + half s.nodeWidth) s.horizontalGap (branch fs) (branch ts)
      obtain ⟨onTrue, nodes, aligned⟩ := exists_parts_shift_placeAll
        (fun m mem => ih m (List.mem_append_left fs mem)) x (y + s.rowStep) dx'
      obtain ⟨onFalse, nodes', aligned'⟩ := exists_parts_shift_placeAll
        (fun m mem => ih m (List.mem_append_right ts mem)) x (y + s.rowStep) dx
      have row : Box.Row s (n.boxAt labelId x y)
          ((Block.row (x + half s.nodeWidth) s.horizontalGap [branch fs, branch ts]).map
            Block.nodes) :=
        row_map_nodes nonneg (by simp [fits]) _ (by simpa using ⟨heads fs, heads ts⟩)
      rw [row_eq, List.map_cons, List.map_singleton, nodes, nodes'] at row
      have boxes : (n.place s labelId x y).nodes =
          n.boxAt labelId x y :: (onTrue.flatten ++ onFalse.flatten) := by
        rw [place_conditional body, nodes_foldl_absorb, row_eq, ← nodes, ← nodes']
        simp [single, boxAt, branch_eq]
      rw [boxes]
      exact .conditional body shown aligned aligned' row
    | choice os =>
      rw [children, body, Body.toList] at ih
      set options := os.map (·.place s labelId x (y + s.rowStep)) with options_eq
      have fits : ∀ b ∈ options, b.Fits s :=
        List.forall_mem_map.2 fun o _ => (built_place o x _).fits
      have heads : ∀ b ∈ options, ∀ head ∈ b.nodes.head?, head.position.y = y + s.rowStep := by
        refine List.forall_mem_map.2 fun o _ => ?_
        rw [head?_place]
        rintro head ⟨⟩
        rfl
      have row := row_map_nodes nonneg fits (n.boxAt labelId x y) heads
      have aligned : List.Forall₂ (fun o b => Aligned s labelId o b.nodes) os
          (Block.row (x + half s.nodeWidth) s.horizontalGap options) := by
        have moved := List.forall₂_map_left_iff.1
          (forall₂_row (x + half s.nodeWidth) s.horizontalGap options)
        refine ((List.forall₂_and_left _ _).2 ⟨ih, moved⟩).imp ?_
        rintro o b ⟨aligned, dx, rfl⟩
        rw [shift_place]
        exact aligned _ _
      rw [place_choice body, placeOptions_eq, nodes_foldl_absorb]
      exact .choice body shown (List.forall₂_map_right_iff.2 aligned) row
    | leaf =>
      rw [place_leaf body]
      exact .leaf body shown

/-- Let no size and no gap be negative, and let a label be drawn. Its boxes, from the label on, are
aligned on every level: they are those of a statement with groups of boxes for the statements right
below it, and each group is aligned again. The end block comes last. It is further down than all
others, by the height of a box or more, and its middle is that of their extent. -/
theorem layoutLabel_aligned (nonneg : s.Nonneg) {label : Node} {y : ℚ} {part : LabelLayout ℚ}
    (drawn : label.layoutLabel s y = .ok part) :
    ∃ boxes last e, part.nodes = boxes ++ [last] ∧ Aligned s label.id label boxes ∧
      last.shown = (endBlockId label.id, none) ∧ Box.Extent s boxes e ∧
      last.position.x + s.nodeWidth / 2 = (e.min + e.max) / 2 ∧
      ∀ box ∈ boxes, box.position.y + s.nodeHeight ≤ last.position.y := by
  obtain ⟨-, rfl⟩ := layoutLabel_eq_ok_iff.1 drawn
  set block := label.place s label.id (Coordinate.ofNat 0) y with block_eq
  have aligned : Aligned s label.id label block.nodes := aligned_place nonneg label _ y
  have built : Block.Built s label.id block := built_place label _ y
  have top : block.nodes.head? = _ := head?_place label _ y
  obtain ⟨e, extent, -⟩ := built.fits.inside _ (List.mem_of_mem_head? top)
  refine ⟨block.nodes, endBlock s label.id block, e, rfl, aligned, rfl, ⟨fun box mem => ?_,
    built.fits.left e extent, built.fits.right e extent⟩, ?_, fun box mem => ?_⟩
  · obtain ⟨e', extent', inside⟩ := built.fits.inside box mem
    obtain rfl := Option.mem_unique extent extent'
    exact inside
  · have middle : (endBlock s label.id block).position.x = e.center - half s.nodeWidth := by
      rw [endBlock, extent, Option.map_some, Option.getD_some]
    rw [middle, Bounds.center, half_eq, half_eq]
    ring
  · have above := built.above box mem
    have lower : (endBlock s label.id block).position.y = block.nextY := rfl
    rw [Spacing.rowStep_eq] at above
    linarith [nonneg.vertical]

/-- A condition in the true branch of another one, a menu with options of unlike width in the false
branch, and a branch without statements. -/
theorem layoutLabel_aligned_uneven :
    let say (id : String) (line : Nat) : Node := ⟨id, .action, id, line, line, .leaf⟩
    let option (id : String) (below : List Node) : Node :=
      ⟨id, .menuOption, id, 5, 8, .sequence below⟩
    let inner : Node := ⟨"j", .ifBlock, "if y", 6, 8, .conditional [say "u" 7] [say "v" 8]⟩
    let menu : Node := ⟨"m", .menuBlock, "menu", 4, 8, .choice [option "o" [], option "p" [inner]]⟩
    let alone : Node := ⟨"k", .ifBlock, "if z", 2, 3, .conditional [] [say "w" 3]⟩
    let test : Node := ⟨"i", .ifBlock, "if x", 1, 8, .conditional [alone] [menu]⟩
    let label : Node := ⟨"a", .labelBlock, "a", 0, 8, .sequence [test]⟩
    let s : Spacing ℚ := ⟨10, 4, 6, 2, 3⟩
    s.Nonneg ∧ ∃ part, label.layoutLabel s 0 = .ok part ∧
      part.nodes.map (fun box => (box.id, box.position.x)) =
        [("a", 0), ("i", 0), ("k", 18), ("w", 18), ("m", -6), ("o", -18), ("p", 0), ("j", 0),
          ("u", 6), ("v", -6), ("end-a", 0)] ∧
      ∃ boxes last e, part.nodes = boxes ++ [last] ∧ Aligned s "a" label boxes ∧
        Box.Extent s boxes e ∧ last.position.x + s.nodeWidth / 2 = (e.min + e.max) / 2 := by
  intro say option inner menu alone test label s
  have nonneg : s.Nonneg := by constructor <;> norm_num [s]
  obtain ⟨part, drawn⟩ : ∃ part, label.layoutLabel s 0 = .ok part := ⟨_, rfl⟩
  have places : part.nodes.map (fun box => (box.id, box.position.x)) =
      [("a", 0), ("i", 0), ("k", 18), ("w", 18), ("m", -6), ("o", -18), ("p", 0), ("j", 0),
        ("u", 6), ("v", -6), ("end-a", 0)] := by
    obtain ⟨-, rfl⟩ := layoutLabel_eq_ok_iff.1 drawn
    decide +kernel
  obtain ⟨boxes, last, e, nodes, aligned, -, extent, middle, -⟩ :=
    layoutLabel_aligned nonneg drawn
  exact ⟨nonneg, part, drawn, places, boxes, last, e, nodes, aligned, extent, middle⟩

end Node

end StoryScript
