import StoryScript.Script.Basic

/-!
# Statements on the wire

A parser sends statements in a plainer form: lines are signed, every statement has a list of
children, and a false branch may be present or not. Reading turns that form into a tree and refuses
what has no place in one; writing is always possible.

## Main definitions

* `WireNode` — a statement as it is sent.
* `TreeError` — why a statement is refused.
* `WireNode.toNode`, `WireNode.ofNode` — reading and writing.
-/

namespace StoryScript

/-- A statement as it is sent. -/
structure WireNode where
  id : String
  kind : NodeKind
  caption : String := ""
  startLine : Int64
  endLine : Int64
  children : List WireNode := []
  falseBranch : Option (List WireNode) := none
deriving Repr, Inhabited

/-- Why a statement is refused. -/
inductive TreeError where
  /-- The lines are negative or reversed. -/
  | range (id : String) (first last : Int64)
  /-- Only a condition has a false branch. -/
  | falseBranch (id : String) (kind : NodeKind)
  /-- Nothing stands below an end. -/
  | endWithChildren (id : String)
  /-- Only options stand right below a menu. -/
  | menuChild (menu child : String) (kind : NodeKind)
deriving Repr, DecidableEq

def TreeError.message : TreeError → String
  | .range id first last => s!"node {id}: invalid line range {first.toInt}..={last.toInt}"
  | .falseBranch id kind =>
    s!"node {id}: false_branch is only allowed on IfBlock, found on {kind.name}"
  | .endWithChildren id => s!"node {id}: End nodes cannot have children"
  | .menuChild menu child kind =>
    s!"menu {menu}: child {child} is a {kind.name}, expected MenuOption"

namespace WireNode

/-- The checks on a statement alone: its lines, and whether it may have a false branch. -/
def check (w : WireNode) : Except TreeError Unit :=
  if w.startLine < 0 ∨ w.endLine < w.startLine then .error (.range w.id w.startLine w.endLine)
  else if w.falseBranch.isSome ∧ w.kind ≠ .ifBlock then .error (.falseBranch w.id w.kind)
  else .ok ()

/-- The body of a statement whose children have been read. -/
def bodyOf (id : String) (kind : NodeKind) (children falseBranch : List Node) :
    Except TreeError (Body Node) :=
  match kind with
  | .ifBlock => .ok (.conditional children falseBranch)
  | .menuBlock =>
    match children.find? (·.kind != .menuOption) with
    | some bad => .error (.menuChild id bad.id bad.kind)
    | none => .ok (.choice children)
  | .ending => if children.isEmpty then .ok .leaf else .error (.endWithChildren id)
  | .action => .ok (if children.isEmpty then .leaf else .sequence children)
  | .labelBlock | .elseBlock | .menuOption => .ok (.sequence children)

mutual

/-- Reads a statement: first it is checked alone, then its children are read, then its false
branch, and last it is checked against its children. -/
def toNode (w : WireNode) : Except TreeError Node :=
  match w with
  | ⟨id, kind, caption, first, last, children, falseBranch⟩ => do
    check ⟨id, kind, caption, first, last, children, falseBranch⟩
    let cs ← toNodes children
    let fs ← match falseBranch with
      | none => .ok []
      | some fs => toNodes fs
    return ⟨id, kind, caption, first.toNatClampNeg, last.toNatClampNeg, ← bodyOf id kind cs fs⟩

def toNodes : List WireNode → Except TreeError (List Node)
  | [] => .ok []
  | w :: ws => do
    let n ← toNode w
    return n :: (← toNodes ws)

end

mutual

/-- Writes a statement. A line number keeps its 64 bits, so a very large one turns negative. -/
def ofNode (n : Node) : WireNode :=
  match n with
  | ⟨id, kind, caption, first, last, body⟩ =>
    match body with
    | .sequence cs => ⟨id, kind, caption, .ofNat first, .ofNat last, ofNodes cs, none⟩
    | .conditional ts fs =>
      ⟨id, kind, caption, .ofNat first, .ofNat last, ofNodes ts, some (ofNodes fs)⟩
    | .choice os => ⟨id, kind, caption, .ofNat first, .ofNat last, ofNodes os, none⟩
    | .leaf => ⟨id, kind, caption, .ofNat first, .ofNat last, [], none⟩

def ofNodes : List Node → List WireNode
  | [] => []
  | n :: ns => ofNode n :: ofNodes ns

end

end WireNode

end StoryScript
