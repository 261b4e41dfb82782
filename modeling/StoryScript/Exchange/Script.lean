import StoryScript.Json.Decode
import StoryScript.Json.Reader
import StoryScript.Script.Wire

/-!
# Scripts as JSON

## Main definitions

* `WireNode.ofJson`, `Tree.ofJson` — a statement and a whole script from JSON.
* `WireNode.toJson`, `Tree.toJson` — and back.
* `Tree.ofText?` — a script from the text of a file.
-/

namespace StoryScript

open Json

def NodeKind.ofJson : Json → Except DecodeError NodeKind :=
  variant (all.map fun k => (k.name, k))

/-- How deep arrays and objects may stand inside each other. -/
def nestingLimit : Nat := 127

namespace WireNode

/-- A statement, with `depth` levels of arrays and objects left. -/
def ofJsonWithin (depth : Nat) (j : Json) : Except DecodeError WireNode := do
  let r ← record "RawScriptNode" j
  match depth with
  | 0 => throw .tooDeep
  | 1 => settleNode r fun _ => throw .tooDeep
  | depth + 2 => settleNode r fun j =>
    match j with
    | .array items => items.mapM (ofJsonWithin depth)
    | j => throw (j.wrongType "a sequence")
where
  /-- Reads the fields, lists of statements by `nodes`. -/
  settleNode (r : Record) (nodes : Json → Except DecodeError (List WireNode)) :
      Except DecodeError WireNode := do
    let id := r.slot 0 "id" .required text
    let kind := r.slot 1 "node_type" .required NodeKind.ofJson
    let caption := r.slot 2 "label_name" .optional text
    let startLine := r.slot 3 "start_line" .required int64
    let endLine := r.slot 4 "end_line" .required int64
    let children := r.slot 5 "children" .optional nodes
    let falseBranch := r.slot 6 "false_branch" .optional (optional nodes)
    r.settle "RawScriptNode" [id.state, kind.state, caption.state, startLine.state, endLine.state,
      children.state, falseBranch.state]
    return ⟨← id.get, ← kind.get, ← caption.getD "", ← startLine.get, ← endLine.get,
      ← children.getD [], ← falseBranch.getD none⟩

def ofJson (j : Json) : Except DecodeError WireNode :=
  ofJsonWithin nestingLimit j

mutual

/-- A statement as JSON; the false branch is left out where there is none. -/
def toJson (w : WireNode) : Json :=
  match w with
  | ⟨id, kind, caption, first, last, children, falseBranch⟩ =>
    .object ([("id", .string id), ("node_type", .string kind.name), ("label_name", .string caption),
      ("start_line", .ofInt first.toInt), ("end_line", .ofInt last.toInt),
      ("children", .array (listToJson children))] ++
      match falseBranch with
      | none => []
      | some fs => [("false_branch", .array (listToJson fs))])

def listToJson : List WireNode → List Json
  | [] => []
  | w :: ws => toJson w :: listToJson ws

end

end WireNode

namespace Tree

/-- A script from JSON. Each statement at top level is read from its wire form before the next one
is looked at. -/
def ofJson (j : Json) : Except DecodeError Tree := do
  let r ← record "ScriptTree" j
  let children := r.slot 0 "children" .optional (list fun j => do
    match (← WireNode.ofJsonWithin (nestingLimit - 2) j).toNode with
    | .ok n => return n
    | .error e => throw (.refused e.message))
  r.settle "ScriptTree" [children.state]
  return ⟨← children.getD []⟩

def toJson (t : Tree) : Json :=
  .object [("children", .array (WireNode.listToJson (WireNode.ofNodes t.children)))]

def ofText? (s : String) : Option Tree :=
  (Json.ofString? s).bind fun j => (ofJson j).toOption

end Tree

end StoryScript
