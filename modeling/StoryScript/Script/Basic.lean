/-!
# The tree of a branching script

A script is a tree of statements. What stands below a statement depends on its body: statements
that follow one another, two branches of a condition, options to choose from, or nothing.

## Main definitions

* `NodeKind`, `Body`, `Node`, `Tree` — statements and the script made of them.
* `Node.children` — the statements right below a statement, true branch before false branch.
* `Node.preorder` — a statement and all below it, in the order of the text.
* `Node.find?`, `Tree.find?`, `Tree.label?` — looking statements up.
-/

namespace StoryScript

/-- The kinds of statement. -/
inductive NodeKind where
  | labelBlock
  | action
  | ifBlock
  | elseBlock
  | menuBlock
  | menuOption
  | ending
deriving Repr, DecidableEq, Inhabited

namespace NodeKind

def all : List NodeKind :=
  [.labelBlock, .action, .ifBlock, .elseBlock, .menuBlock, .menuOption, .ending]

def name : NodeKind → String
  | labelBlock => "LabelBlock"
  | action => "Action"
  | ifBlock => "IfBlock"
  | elseBlock => "ElseBlock"
  | menuBlock => "MenuBlock"
  | menuOption => "MenuOption"
  | ending => "End"

end NodeKind

/-- What stands below a statement. -/
inductive Body (ν : Type) where
  | sequence (children : List ν)
  | conditional (onTrue onFalse : List ν)
  | choice (options : List ν)
  | leaf
deriving Repr, DecidableEq, Inhabited

/-- All that stands right below a statement, true branch before false branch. -/
def Body.toList : Body ν → List ν
  | .sequence cs => cs
  | .conditional ts fs => ts ++ fs
  | .choice os => os
  | .leaf => []

/-- A statement with its range of lines, both ends included. The caption of a label is its name. -/
structure Node where
  id : String
  kind : NodeKind
  caption : String
  startLine : Nat
  endLine : Nat
  body : Body Node
deriving Repr, Inhabited

namespace Node

/-- The statements right below a statement. -/
def children (n : Node) : List Node :=
  n.body.toList

/-- Whether control can be sent here by name. -/
def isLabel (n : Node) : Bool :=
  n.kind == .labelBlock

/-- Whether control never goes on to the next statement. -/
def isTerminal (n : Node) : Bool :=
  n.kind == .ending

/-- How many lines follow the first one. -/
def span (n : Node) : Nat :=
  n.endLine - n.startLine

mutual

/-- A statement and all statements below it, each before those below it. -/
def preorder (n : Node) : List Node :=
  match n with
  | ⟨id, kind, caption, s, e, body⟩ => ⟨id, kind, caption, s, e, body⟩ ::
    match body with
    | .sequence cs => preorderAll cs
    | .conditional ts fs => preorderAll ts ++ preorderAll fs
    | .choice os => preorderAll os
    | .leaf => []

/-- The statements of a list and all below them. -/
def preorderAll : List Node → List Node
  | [] => []
  | n :: ns => n.preorder ++ preorderAll ns

end

mutual

/-- The first statement with a given id, of this one and those below it. -/
def find? (id : String) (n : Node) : Option Node :=
  match n with
  | ⟨id', kind, caption, s, e, body⟩ =>
    if id' = id then some ⟨id', kind, caption, s, e, body⟩
    else
      match body with
      | .sequence cs => findIn? id cs
      | .conditional ts fs => findIn? id ts <|> findIn? id fs
      | .choice os => findIn? id os
      | .leaf => none

/-- The first statement with a given id, in a list and below it. -/
def findIn? (id : String) : List Node → Option Node
  | [] => none
  | n :: ns => n.find? id <|> findIn? id ns

end

end Node

/-- A script as its statements at top level. -/
structure Tree where
  children : List Node := []
deriving Repr, Inhabited

namespace Tree

def labels (t : Tree) : List Node :=
  t.children.filter (·.isLabel)

def label? (t : Tree) (name : String) : Option Node :=
  t.labels.find? (·.caption == name)

def find? (t : Tree) (id : String) : Option Node :=
  Node.findIn? id t.children

def preorder (t : Tree) : List Node :=
  Node.preorderAll t.children

end Tree

end StoryScript
