import StoryScript.Graph.Basic

/-!
# Where the boxes go

Every statement is placed together with those below it, as a block of boxes. Statements in a row
stand under each other; branches and options stand side by side, centred under the box they belong
to, the false branch on the left. Blocks are placed first and moved sideways afterwards, so the
arithmetic runs in a fixed order.

## Main definitions

* `Coordinate` — the arithmetic of positions, with the instance for floats.
* `Spacing` — sizes and gaps.
* `Bounds`, `Block` — the horizontal extent of boxes, and placed boxes.
* `rowSlots`, `Block.row` — left edges of blocks side by side, and the blocks moved there.
* `Node.place` — the block of a statement.
-/

namespace StoryScript

/-- The arithmetic that positions need. -/
class Coordinate (α : Type) extends Add α, Sub α, Mul α, Div α where
  /-- The coordinate of a count. -/
  ofNat : Nat → α
  /-- The smaller of two. -/
  least : α → α → α
  /-- The greater of two. -/
  greatest : α → α → α

/-- Of a float that is not a number and another one, the other one counts; of equal ones the
first. -/
instance : Coordinate Float where
  ofNat := Float.ofNat
  least a b := if a.isNaN then b else if b < a then b else a
  greatest a b := if a.isNaN then b else if a < b then b else a

/-- Sizes of boxes and the gaps between them. -/
structure Spacing (α : Type) where
  nodeWidth : α
  nodeHeight : α
  verticalGap : α
  horizontalGap : α
  /-- The gap between two labels, in vertical gaps. -/
  labelGapFactor : α
deriving Repr, DecidableEq

def Spacing.standard : Spacing Float :=
  ⟨250, 50, 80, 20, 3⟩

variable {α : Type} [Coordinate α]

open Coordinate

def half (a : α) : α :=
  a / ofNat 2

/-- The distance from one row of boxes to the next. -/
def Spacing.rowStep (s : Spacing α) : α :=
  s.nodeHeight + s.verticalGap

/-- A horizontal extent. -/
structure Bounds (α : Type) where
  min : α
  max : α
deriving Repr, DecidableEq

namespace Bounds

def width (b : Bounds α) : α :=
  b.max - b.min

def center (b : Bounds α) : α :=
  half (b.min + b.max)

def union (a b : Bounds α) : Bounds α :=
  ⟨least a.min b.min, greatest a.max b.max⟩

def shift (b : Bounds α) (dx : α) : Bounds α :=
  ⟨b.min + dx, b.max + dx⟩

end Bounds

/-- Boxes that were placed together: the boxes, where the next row begins, and their extent, which
no boxes have none of. -/
structure Block (α : Type) where
  nodes : List (Box α)
  nextY : α
  bounds : Option (Bounds α)
deriving Repr

namespace Block

def empty (y : α) : Block α :=
  ⟨[], y, none⟩

def single (spacing : Spacing α) (labelId : String) (n : Node) (x y : α) : Block α :=
  ⟨[⟨n.id, ⟨x, y⟩, some (.ofNode labelId n)⟩], y + spacing.rowStep,
    some ⟨x, x + spacing.nodeWidth⟩⟩

def shift (b : Block α) (dx : α) : Block α :=
  ⟨b.nodes.map fun box => { box with position := ⟨box.position.x + dx, box.position.y⟩ },
    b.nextY, b.bounds.map (·.shift dx)⟩

/-- Two blocks as one. -/
def absorb (a b : Block α) : Block α :=
  ⟨a.nodes ++ b.nodes, greatest a.nextY b.nextY,
    match a.bounds, b.bounds with
    | some p, some q => some (p.union q)
    | some p, none => some p
    | none, q => q⟩

end Block

/-- The width of a row: the widths one after the other, and the gaps between them. -/
def rowWidth (gap : α) : List α → α
  | [] => gap * ofNat 0
  | w :: ws => ws.foldl (· + ·) w + gap * ofNat ws.length

/-- The left edge of a row around `center`. -/
def rowStart (center gap : α) (widths : List α) : α :=
  center - half (rowWidth gap widths)

/-- Left edges of a row that begins at `cursor`. -/
def slotsFrom (cursor gap : α) : List α → List α
  | [] => []
  | w :: ws => cursor :: slotsFrom (cursor + (w + gap)) gap ws

/-- Left edges of blocks side by side, the row around `center`. -/
def rowSlots (center gap : α) (widths : List α) : List α :=
  slotsFrom (rowStart center gap widths) gap widths

namespace Block

/-- Moves blocks to the places of a row that begins at `cursor`; blocks without boxes take no
place. -/
def rowFrom (cursor gap : α) : List (Block α) → List (Block α)
  | [] => []
  | b :: bs =>
    match b.bounds with
    | none => b :: rowFrom cursor gap bs
    | some e => b.shift (cursor - e.min) :: rowFrom (cursor + (e.width + gap)) gap bs

/-- The widths of the blocks that have boxes. -/
def widths (bs : List (Block α)) : List α :=
  bs.filterMap fun b => b.bounds.map Bounds.width

/-- Moves blocks side by side, the row around `center`. -/
def row (center gap : α) (bs : List (Block α)) : List (Block α) :=
  rowFrom (rowStart center gap (widths bs)) gap bs

end Block

namespace Node

mutual

/-- Places a statement, and those below it, with its upper left corner at `x`, `y`. -/
def place (spacing : Spacing α) (labelId : String) (x y : α) (n : Node) : Block α :=
  match n with
  | ⟨id, kind, caption, s, e, body⟩ =>
    let top := Block.single spacing labelId ⟨id, kind, caption, s, e, body⟩ x y
    let center := x + half spacing.nodeWidth
    match body with
    | .sequence cs => top.absorb (placeAll spacing labelId x (.empty top.nextY) cs)
    | .conditional ts fs =>
      let onTrue := placeAll spacing labelId x (.empty top.nextY) ts
      let onFalse := placeAll spacing labelId x (.empty top.nextY) fs
      (Block.row center spacing.horizontalGap [onFalse, onTrue]).reverse.foldl .absorb top
    | .choice os =>
      (Block.row center spacing.horizontalGap
        (placeOptions spacing labelId x top.nextY os)).foldl .absorb top
    | .leaf => top

/-- Places statements under each other, below those placed already. -/
def placeAll (spacing : Spacing α) (labelId : String) (x : α) (above : Block α) :
    List Node → Block α
  | [] => above
  | n :: ns =>
    placeAll spacing labelId x (above.absorb (n.place spacing labelId x above.nextY)) ns

/-- Places the options of a menu, each on its own. -/
def placeOptions (spacing : Spacing α) (labelId : String) (x y : α) : List Node → List (Block α)
  | [] => []
  | o :: os => o.place spacing labelId x y :: placeOptions spacing labelId x y os

end

end Node

end StoryScript
