import StoryScript.Graph.Basic
import StoryScript.Text.Blank

/-!
# Where control goes

The arrows of a label follow from the tree alone. Statements in a row lead from one to the next; a
condition leads into both branches and a menu into all its options; whatever comes last leads to
what stands behind the enclosing statement, and at last to the block that ends the label.

## Main definitions

* `Node.flow` — the arrows that leave a statement and those below it.
* `Node.flowEdges` — the arrows of a label, with its end block.
* `endBlockId`, `optionCaption` — the id of the end block, the text at an option's arrow.
-/

namespace StoryScript

/-- The id of the block that ends a label. -/
def endBlockId (labelId : String) : String :=
  "end-" ++ labelId

/-- The text at the arrow to an option: its caption without white space and quotes around it. -/
def optionCaption (caption : String) : String :=
  .ofList (Text.stripBoth (· == '"') (Text.stripBoth Text.isSpace caption.toList))

namespace Node

def trueLabel : String := "True"

def falseLabel : String := "False"

/-- Where control enters a list of statements that `next` follows. -/
def entrance (next : String) : List Node → String
  | [] => next
  | n :: _ => n.id

/-- The arrow that leaves a statement with nothing below it. -/
def leave (id : String) (kind : NodeKind) (next : String) : List Edge :=
  if kind = .ending then [] else [.between id next]

mutual

/-- The arrows that leave a statement and those below it, when control goes on to `next` behind
it. -/
def flow (next : String) (n : Node) : List Edge :=
  match n with
  | ⟨id, kind, _, _, _, body⟩ =>
    match body with
    | .sequence [] => leave id kind next
    | .sequence (c :: cs) => .between id c.id :: flowAll next (c :: cs)
    | .conditional ts fs =>
      .between id (entrance next ts) trueLabel :: .between id (entrance next fs) falseLabel ::
        (flowAll next ts ++ flowAll next fs)
    | .choice [] => leave id kind next
    | .choice (o :: os) => flowOptions id next (o :: os)
    | .leaf => leave id kind next

/-- The arrows that leave statements in a row and those below them. -/
def flowAll (next : String) : List Node → List Edge
  | [] => []
  | n :: ns => n.flow (entrance next ns) ++ flowAll next ns

/-- The arrows into the options of a menu, and those that leave them. -/
def flowOptions (menu next : String) : List Node → List Edge
  | [] => []
  | o :: os =>
    .between menu o.id (optionCaption o.caption) :: (o.flow next ++ flowOptions menu next os)

end

/-- The arrows to the end block from all statements that nothing leaves, the label aside. -/
def danglingEdges (label : Node) (edges : List Edge) : List Edge :=
  (label.preorder.filter fun n => n.id != label.id && !edges.any (·.source == n.id)).map
    fun n => .between n.id (endBlockId label.id)

/-- The arrows of a label. -/
def flowEdges (label : Node) : List Edge :=
  let edges := label.flow (endBlockId label.id)
  edges ++ label.danglingEdges edges

end Node

end StoryScript
