import Mathlib.Algebra.Order.Ring.Rat
import Mathlib.Tactic.Linarith
import StoryScript.Graph.Placement

/-!
# Exact positions

With rational numbers for coordinates nothing is rounded, so what holds of the places of boxes can
be read off the arithmetic. First of all this is that a block knows its extent, through every move
and merger.

## Main definitions

* the instance of `Coordinate` for rational numbers.
* `Spacing.Sound` — boxes have a size, and gaps are not negative.
* `Block.Fits` — the extent of a block is that of its boxes.

## Main statements

* `Fits.shift`, `Fits.absorb` — moving a block and putting blocks together keeps the extent right.
* `Fits.moved` — where the boxes of a block are after it was moved by its extent.
-/

namespace StoryScript

/-- Rational numbers, which are not rounded. -/
instance : Coordinate ℚ where
  ofNat n := n
  least := min
  greatest := max

/-- Boxes have a width and a height, and no gap makes them overlap. -/
structure Spacing.Sound (s : Spacing ℚ) : Prop where
  width : 0 < s.nodeWidth
  height : 0 < s.nodeHeight
  vertical : 0 ≤ s.verticalGap
  horizontal : 0 ≤ s.horizontalGap
  label : 0 ≤ s.labelGapFactor

variable {s : Spacing ℚ}

theorem Spacing.rowStep_eq : s.rowStep = s.nodeHeight + s.verticalGap := rfl

namespace Bounds

variable (a b : Bounds ℚ)

theorem width_eq : a.width = a.max - a.min := rfl

theorem union_eq : a.union b = ⟨Min.min a.min b.min, Max.max a.max b.max⟩ := rfl

theorem shift_eq (dx : ℚ) : a.shift dx = ⟨a.min + dx, a.max + dx⟩ := rfl

end Bounds

/-! ## Extents -/

namespace Block

variable {labelId : String}

/-- The extent of a block is that of its boxes: no box reaches out of it, and one reaches to either
side. -/
structure Fits (s : Spacing ℚ) (b : Block ℚ) : Prop where
  inside : ∀ box ∈ b.nodes, ∃ e ∈ b.bounds,
    e.min ≤ box.position.x ∧ box.position.x + s.nodeWidth ≤ e.max
  left : ∀ e ∈ b.bounds, ∃ box ∈ b.nodes, box.position.x = e.min
  right : ∀ e ∈ b.bounds, ∃ box ∈ b.nodes, box.position.x + s.nodeWidth = e.max

theorem fits_empty (y : ℚ) : (empty y).Fits s :=
  ⟨by simp [empty], by simp [empty], by simp [empty]⟩

theorem fits_single (n : Node) (x y : ℚ) : (single s labelId n x y).Fits s := by
  refine ⟨?_, ?_, ?_⟩ <;> simp [single]

variable {a b : Block ℚ}

theorem Fits.shift (h : b.Fits s) (dx : ℚ) : (b.shift dx).Fits s where
  inside := by
    intro box mem
    obtain ⟨old, there, rfl⟩ := List.mem_map.1 mem
    obtain ⟨e, he, low, high⟩ := h.inside old there
    refine ⟨e.shift dx, Option.mem_map_of_mem _ he, ?_, ?_⟩
    · simpa [Bounds.shift_eq] using low
    · rw [Bounds.shift_eq]
      linarith
  left := by
    intro e he
    obtain ⟨old, there, rfl⟩ := Option.mem_map.1 he
    obtain ⟨box, mem, eq⟩ := h.left old there
    exact ⟨_, List.mem_map_of_mem mem, by simp [Bounds.shift_eq, eq]⟩
  right := by
    intro e he
    obtain ⟨old, there, rfl⟩ := Option.mem_map.1 he
    obtain ⟨box, mem, eq⟩ := h.right old there
    refine ⟨_, List.mem_map_of_mem mem, ?_⟩
    rw [Bounds.shift_eq]
    linarith

theorem Fits.nodes_eq_nil (h : b.Fits s) (bounds : b.bounds = none) : b.nodes = [] := by
  refine List.eq_nil_iff_forall_not_mem.2 fun box mem => ?_
  obtain ⟨e, he, -⟩ := h.inside box mem
  simp [bounds] at he

/-- A block that is moved by its extent to `left` reaches from there as far as it is wide. -/
theorem Fits.moved (h : b.Fits s) {e : Bounds ℚ} (bounds : b.bounds = some e) (left : ℚ) :
    ∀ box ∈ (b.shift (left - e.min)).nodes,
      left ≤ box.position.x ∧ box.position.x + s.nodeWidth ≤ left + e.width := by
  intro box mem
  obtain ⟨old, there, rfl⟩ := List.mem_map.1 mem
  obtain ⟨e', he', low, high⟩ := h.inside old there
  obtain rfl : e' = e := Option.mem_unique he' bounds
  rw [Bounds.width_eq]
  constructor <;> linarith

/-- The extent of two blocks together reaches around both, and one without boxes adds nothing. -/
theorem mem_bounds_absorb {e : Bounds ℚ} : e ∈ (a.absorb b).bounds ↔
    (∃ p ∈ a.bounds, ∃ q ∈ b.bounds, e = p.union q) ∨
      (e ∈ a.bounds ∧ b.bounds = none) ∨ (a.bounds = none ∧ e ∈ b.bounds) := by
  rw [Block.absorb]
  cases a.bounds <;> cases b.bounds <;> simp [eq_comm]

theorem exists_mem_absorb {P : Box ℚ → Prop} : (∃ box ∈ (a.absorb b).nodes, P box) ↔
    (∃ box ∈ a.nodes, P box) ∨ ∃ box ∈ b.nodes, P box := by
  simp [Block.absorb, or_and_right, exists_or]

theorem Fits.absorb (ha : a.Fits s) (hb : b.Fits s) : (a.absorb b).Fits s where
  inside := by
    intro box mem
    rcases List.mem_append.1 mem with mem | mem
    · obtain ⟨p, hp, low, high⟩ := ha.inside box mem
      cases eb : b.bounds with
      | none => exact ⟨p, mem_bounds_absorb.2 (.inr (.inl ⟨hp, eb⟩)), low, high⟩
      | some q =>
        refine ⟨p.union q, mem_bounds_absorb.2 (.inl ⟨p, hp, q, eb, rfl⟩), ?_, ?_⟩
        · exact (min_le_left _ _).trans low
        · exact high.trans (le_max_left _ _)
    · obtain ⟨q, hq, low, high⟩ := hb.inside box mem
      cases ea : a.bounds with
      | none => exact ⟨q, mem_bounds_absorb.2 (.inr (.inr ⟨ea, hq⟩)), low, high⟩
      | some p =>
        refine ⟨p.union q, mem_bounds_absorb.2 (.inl ⟨p, ea, q, hq, rfl⟩), ?_, ?_⟩
        · exact (min_le_right _ _).trans low
        · exact high.trans (le_max_right _ _)
  left := by
    intro e he
    rcases mem_bounds_absorb.1 he with ⟨p, hp, q, hq, rfl⟩ | ⟨hp, -⟩ | ⟨-, hq⟩
    · rw [Bounds.union_eq]
      rcases min_choice p.min q.min with eq | eq <;> rw [eq]
      · exact exists_mem_absorb.2 (.inl (ha.left p hp))
      · exact exists_mem_absorb.2 (.inr (hb.left q hq))
    · exact exists_mem_absorb.2 (.inl (ha.left e hp))
    · exact exists_mem_absorb.2 (.inr (hb.left e hq))
  right := by
    intro e he
    rcases mem_bounds_absorb.1 he with ⟨p, hp, q, hq, rfl⟩ | ⟨hp, -⟩ | ⟨-, hq⟩
    · rw [Bounds.union_eq]
      rcases max_choice p.max q.max with eq | eq <;> rw [eq]
      · exact exists_mem_absorb.2 (.inl (ha.right p hp))
      · exact exists_mem_absorb.2 (.inr (hb.right q hq))
    · exact exists_mem_absorb.2 (.inl (ha.right e hp))
    · exact exists_mem_absorb.2 (.inr (hb.right e hq))

/-- An extent that boxes reach to is at least as wide as a box. -/
theorem Fits.nodeWidth_le (h : b.Fits s) {e : Bounds ℚ} (he : e ∈ b.bounds) :
    s.nodeWidth ≤ e.width := by
  obtain ⟨box, mem, at_edge⟩ := h.left e he
  obtain ⟨e', he', -, high⟩ := h.inside box mem
  obtain rfl := Option.mem_unique he he'
  rw [Bounds.width_eq]
  linarith

end Block

end StoryScript
