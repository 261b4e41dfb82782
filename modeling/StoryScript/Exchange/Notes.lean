import StoryScript.Json.Decode
import StoryScript.Sidecar.Metadata
import StoryScript.Text.Indent

/-!
# Notes and indents as JSON

## Main definitions

* `Sidecar.Metadata.ofJson`, `Sidecar.Metadata.toJson` — the notes of a statement.
* `Text.IndentInfo.ofJson`, `Text.IndentInfo.toJson` — the indent of an excerpt.
* `Text.IndentPolicy.ofJson` — what to do about faulty indents.
-/

namespace StoryScript

open Json

def Sidecar.Status.ofJson : Json → Except DecodeError Status :=
  variant (all.map fun s => (s.text, s))

/-- Notes by their keys; none of them has to be there. -/
def Sidecar.Metadata.ofJson (j : Json) : Except DecodeError Metadata := do
  let r ← record "NodeMetadata" j
  let name := r.slot 0 Field.name.key .optional (optional text)
  let status := r.slot 1 Field.status.key .optional (optional Status.ofJson)
  let author := r.slot 2 Field.author.key .optional (optional text)
  let accentColor := r.slot 3 Field.accentColor.key .optional (optional text)
  let tag := r.slot 4 Field.tag.key .optional (optional text)
  let tagColor := r.slot 5 Field.tagColor.key .optional (optional text)
  r.settle "NodeMetadata"
    [name.state, status.state, author.state, accentColor.state, tag.state, tagColor.state]
  return ⟨← name.getD none, ← status.getD none, ← author.getD none, ← accentColor.getD none,
    ← tag.getD none, ← tagColor.getD none, []⟩

def Sidecar.Metadata.toJson (m : Metadata) : Json :=
  .object (m.fields.filterMap fun (f, value) => value.map fun v => (f.key, .string v))

def Text.IndentInfo.ofJson (j : Json) : Except DecodeError IndentInfo := do
  let r ← record "IndentInfo" j
  let indent := r.slot 0 "indent" .required text
  let stripped := r.slot 1 "stripped" .required flag
  let error := r.slot 2 "error" .optional (optional text)
  r.settle "IndentInfo" [indent.state, stripped.state, error.state]
  return ⟨← indent.get, ← stripped.get, ← error.getD none⟩

/-- What was found out about an indent; no fault is left out. -/
def Text.IndentInfo.toJson (info : IndentInfo) : Json :=
  .object ([("indent", .string info.indent), ("stripped", .bool info.stripped)] ++
    info.error.toList.map fun e => ("error", .string e))

def Text.IndentPolicy.ofJson : Json → Except DecodeError IndentPolicy :=
  variant [("block", .block), ("warn", .warn)]

end StoryScript
