import StoryScript.Command.Arguments
import StoryScript.Command.Files
import StoryScript.Editing.Editor
import StoryScript.Exchange.Notes
import StoryScript.Exchange.Picture

/-!
# Running a command

A command reads its files in a fixed order, the configuration first, and stops at the first one that
is refused. Reading files is left to the caller.

## Main definitions

* `CommandError` — why a command fails.
* `Invocation.run` — the JSON that a command prints.
-/

namespace StoryScript

/-- Why a command fails. -/
inductive CommandError where
  | load (error : LoadError)
  | layout (error : LayoutError)
  | sync (error : SyncError)
deriving Repr

def CommandError.message : CommandError → String
  | .load error => error.message
  | .layout error => error.message
  | .sync error => error.message

def runLayout (config : Config) (tree : Tree) (label : Option String) : Except CommandError Json :=
  let filter := match label with
    | none => .all
    | some name => .only name
  match tree.layout config.layout filter with
  | .error e => .error (.layout e)
  | .ok graph => .ok graph.toJson

/-- An editor that has loaded a script whose tree is known, and what it works on. -/
def openEditor (config : Config) (tree : Tree) (source : String) :
    Except CommandError (Editor × Shared) :=
  let script := "cli"
  let parsed : Parsed := ⟨tree, (plainLines source).length⟩
  let editor : Editor := { script, config, parser := fun _ => .ok parsed }
  match editor.load ⟨({} : Store).put script source, {}⟩ with
  | (.error e, _) => .error (.sync e)
  | (.ok _, editor, shared) => .ok (editor, shared)

def runSearch (config : Config) (tree : Tree) (source query : String) :
    Except CommandError Json := do
  let (editor, _) ← openEditor config tree source
  return .array ((editor.search query).map Hit.toJson)

def runExcerpt (config : Config) (tree : Tree) (source node : String) :
    Except CommandError Json := do
  let (editor, shared) ← openEditor config tree source
  match (editor.beginEdit shared node).1 with
  | .error e => throw (.sync e)
  | .ok s => return .object [("body", .string s.body), ("end_line", .ofNat s.endLine),
      ("indent", s.indent.toJson), ("metadata", s.metadata.toJson), ("node_id", .string s.nodeId),
      ("start_line", .ofNat s.startLine)]

/-- Runs a command, with files read by `read`. -/
def Invocation.run {m : Type → Type} [Monad m] (read : String → m FileContent) (i : Invocation) :
    m (Except CommandError Json) :=
  ExceptT.run do
    let config ← match i.config with
      | none => pure {}
      | some path => load loadConfig path
    match i.command with
    | .layout tree label => liftExcept (runLayout config (← load loadTree tree) label)
    | .search tree script query =>
      let tree ← load loadTree tree
      liftExcept (runSearch config tree (← load loadScript script) query)
    | .excerpt tree script node =>
      let tree ← load loadTree tree
      liftExcept (runExcerpt config tree (← load loadScript script) node)
where
  /-- The outcome of a step that reads no file. -/
  liftExcept {α : Type} (r : Except CommandError α) : ExceptT CommandError m α :=
    ExceptT.mk (pure r)
  /-- Reads a file. -/
  load {α : Type} (parse : String → FileContent → Except LoadError α) (path : String) :
      ExceptT CommandError m α :=
    ExceptT.mk do return (parse path (← read path)).mapError .load

end StoryScript
