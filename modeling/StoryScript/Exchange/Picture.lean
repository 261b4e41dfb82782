import StoryScript.Exchange.Script
import StoryScript.Graph.Basic
import StoryScript.Index.Search

/-!
# Pictures and indexes as JSON

## Main definitions

* `Entry.ofJson`, `Entry.toJson`, `Hit.toJson` — entries of the index, and lines that were found.
* `Graph.ofJson`, `Graph.toJson` — pictures.
-/

namespace StoryScript

open Json

def Entry.ofJson (j : Json) : Except DecodeError Entry := do
  let r ← record "LineIndexEntry" j
  let nodeId := r.slot 0 "node_id" .required text
  let kind := r.slot 1 "node_type" .required NodeKind.ofJson
  let labelId := r.slot 2 "label_id" .nullable (optional text)
  let labelName := r.slot 3 "label_name" .nullable (optional text)
  let startLine := r.slot 4 "start_line" .required size
  let endLine := r.slot 5 "end_line" .required size
  r.settle "LineIndexEntry"
    [nodeId.state, kind.state, labelId.state, labelName.state, startLine.state, endLine.state]
  return ⟨← nodeId.get, ← kind.get, ← labelId.getD none, ← labelName.getD none, ← startLine.get,
    ← endLine.get⟩

/-- An entry of the index; outside of labels the label is `null`. -/
def Entry.toJson (e : Entry) : Json :=
  .object [("node_id", .string e.nodeId), ("node_type", .string e.kind.name),
    ("label_id", ofOption .string e.labelId), ("label_name", ofOption .string e.labelName),
    ("start_line", ofNat e.startLine), ("end_line", ofNat e.endLine)]

def Hit.toJson (h : Hit) : Json :=
  .object [("line", ofNat h.line), ("text", .string h.text), ("entry", h.entry.toJson)]

def Position.ofJson (j : Json) : Except DecodeError (Position Float) := do
  let r ← record "Position" j
  let x := r.slot 0 "x" .required float
  let y := r.slot 1 "y" .required float
  r.settle "Position" [x.state, y.state]
  return ⟨← x.get, ← y.get⟩

def NodeSummary.ofJson (j : Json) : Except DecodeError NodeSummary := do
  let r ← record "NodeData" j
  let kind := r.slot 0 "node_type" .required NodeKind.ofJson
  let caption := r.slot 1 "label_name" .required text
  let startLine := r.slot 2 "start_line" .required size
  let endLine := r.slot 3 "end_line" .required size
  let labelId := r.slot 4 "label_id" .required text
  r.settle "NodeData" [kind.state, caption.state, startLine.state, endLine.state, labelId.state]
  return ⟨← kind.get, ← caption.get, ← startLine.get, ← endLine.get, ← labelId.get⟩

def NodeSummary.toJson (d : NodeSummary) : Json :=
  .object [("node_type", .string d.kind.name), ("label_name", .string d.caption),
    ("start_line", ofNat d.startLine), ("end_line", ofNat d.endLine),
    ("label_id", .string d.labelId)]

def Box.ofJson (j : Json) : Except DecodeError (Box Float) := do
  let r ← record "GraphNode" j
  let id := r.slot 0 "id" .required text
  let position := r.slot 1 "position" .required Position.ofJson
  let summary := r.slot 2 "original" .nullable (optional NodeSummary.ofJson)
  r.settle "GraphNode" [id.state, position.state, summary.state]
  return ⟨← id.get, ← position.get, ← summary.getD none⟩

/-- A box; the block that ends a label has `null` as its statement. -/
def Box.toJson (b : Box Float) : Json :=
  .object [("id", .string b.id),
    ("position", .object [("x", ofFloat b.position.x), ("y", ofFloat b.position.y)]),
    ("original", ofOption NodeSummary.toJson b.summary)]

def Edge.ofJson (j : Json) : Except DecodeError Edge := do
  let r ← record "GraphEdge" j
  let id := r.slot 0 "id" .required text
  let source := r.slot 1 "source" .required text
  let target := r.slot 2 "target" .required text
  let label := r.slot 3 "label" .optional (optional text)
  r.settle "GraphEdge" [id.state, source.state, target.state, label.state]
  return ⟨← id.get, ← source.get, ← target.get, ← label.getD none⟩

/-- An arrow; no label is left out. -/
def Edge.toJson (e : Edge) : Json :=
  .object ([("id", .string e.id), ("source", .string e.source), ("target", .string e.target)] ++
    e.label.toList.map fun l => ("label", .string l))

def Graph.ofJson (j : Json) : Except DecodeError (Graph Float) := do
  let r ← record "Graph" j
  let nodes := r.slot 0 "nodes" .required (list Box.ofJson)
  let edges := r.slot 1 "edges" .required (list Edge.ofJson)
  r.settle "Graph" [nodes.state, edges.state]
  return ⟨← nodes.get, ← edges.get⟩

def Graph.toJson (g : Graph Float) : Json :=
  .object [("nodes", .array (g.nodes.map Box.toJson)), ("edges", .array (g.edges.map Edge.toJson))]

end StoryScript
