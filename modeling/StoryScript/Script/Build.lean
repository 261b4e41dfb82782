import StoryScript.Script.Basic

/-!
# Building scripts by hand

One function for each kind of statement, with the body that belongs to it.

## Main definitions

* `Node.label`, `action`, `finish`, `ifBlock`, `elseBlock`, `menu`, `option`.
-/

namespace StoryScript.Node

def label (id name : String) (first last : Nat) (children : List Node) : Node :=
  ⟨id, .labelBlock, name, first, last, .sequence children⟩

def action (id caption : String) (first last : Nat) : Node :=
  ⟨id, .action, caption, first, last, .leaf⟩

def finish (id caption : String) (first last : Nat) : Node :=
  ⟨id, .ending, caption, first, last, .leaf⟩

def ifBlock (id caption : String) (first last : Nat) (onTrue onFalse : List Node) : Node :=
  ⟨id, .ifBlock, caption, first, last, .conditional onTrue onFalse⟩

/-- The statements of a branch that is taken otherwise. -/
def elseBlock (id : String) (first last : Nat) (children : List Node) : Node :=
  ⟨id, .elseBlock, "else", first, last, .sequence children⟩

def menu (id : String) (first last : Nat) (options : List Node) : Node :=
  ⟨id, .menuBlock, "menu", first, last, .choice options⟩

/-- An option of a menu with the statements below it. -/
def option (id caption : String) (first last : Nat) (children : List Node) : Node :=
  ⟨id, .menuOption, caption, first, last, .sequence children⟩

end StoryScript.Node
