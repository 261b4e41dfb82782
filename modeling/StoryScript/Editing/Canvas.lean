import StoryScript.Graph.Basic

/-!
# The canvas

The canvas shows the picture of a script through a viewport. It remembers what it was asked to show.

## Main definitions

* `Viewport`, `Canvas`.
* `Canvas.render`, `Canvas.focus`, `Canvas.restore`, `Canvas.fitAll`.
-/

namespace StoryScript

/-- The part of the picture that is seen. -/
structure Viewport where
  x : Float := 0
  y : Float := 0
  zoom : Float := 1
deriving Repr, Inhabited

/-- A canvas with the picture it shows. `unfocusable` lists the boxes it will not move to. -/
structure Canvas where
  graph : Option (Graph Float) := none
  viewport : Viewport := {}
  focused : Option String := none
  renders : Nat := 0
  fits : Nat := 0
  unfocusable : List String := []
deriving Repr, Inhabited

namespace Canvas

def render (c : Canvas) (g : Graph Float) : Canvas :=
  { c with graph := some g, renders := c.renders + 1 }

/-- Moves to a box and keeps the zoom. Nothing happens when the box is not there. -/
def focus (c : Canvas) (id : String) : Bool × Canvas :=
  if c.unfocusable.contains id then (false, c)
  else
    match c.graph.bind (·.node? id) with
    | none => (false, c)
    | some box =>
      (true, { c with
        viewport := ⟨box.position.x, box.position.y, c.viewport.zoom⟩, focused := some id })

def restore (c : Canvas) (v : Viewport) : Canvas :=
  { c with viewport := v }

def fitAll (c : Canvas) : Canvas :=
  { c with viewport := {}, fits := c.fits + 1 }

@[simp] theorem graph_render (c : Canvas) (g : Graph Float) : (c.render g).graph = some g := rfl

@[simp] theorem graph_restore (c : Canvas) (v : Viewport) : (c.restore v).graph = c.graph := rfl

@[simp] theorem graph_fitAll (c : Canvas) : c.fitAll.graph = c.graph := rfl

@[simp] theorem graph_focus (c : Canvas) (id : String) : (c.focus id).2.graph = c.graph := by
  unfold focus
  split
  · rfl
  · split <;> rfl

@[simp] theorem unfocusable_focus (c : Canvas) (id : String) :
    (c.focus id).2.unfocusable = c.unfocusable := by
  unfold focus
  split
  · rfl
  · split <;> rfl

@[simp] theorem unfocusable_render (c : Canvas) (g : Graph Float) :
    (c.render g).unfocusable = c.unfocusable := rfl

@[simp] theorem unfocusable_restore (c : Canvas) (v : Viewport) :
    (c.restore v).unfocusable = c.unfocusable := rfl

@[simp] theorem unfocusable_fitAll (c : Canvas) : c.fitAll.unfocusable = c.unfocusable := rfl

end Canvas

end StoryScript
