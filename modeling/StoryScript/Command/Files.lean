import StoryScript.Config.Reader
import StoryScript.Exchange.Script

/-!
# Files

What the program reads from files, and why a file is refused. A file that is not there is refused
like one whose bytes are not UTF-8.

## Main definitions

* `LoadError` — why a file is refused.
* `loadTree`, `loadConfig`, `loadScript` — a tree, a configuration and a script from a file.
-/

namespace StoryScript

/-- Why a file is refused; each carries the path. -/
inductive LoadError where
  | unreadableTree (path : String)
  | malformedTree (path : String)
  | unreadableConfig (path : String)
  | malformedConfig (path : String)
  | unreadableScript (path : String)
deriving Repr, DecidableEq

def LoadError.message : LoadError → String
  | .unreadableTree path => s!"Failed to read tree file from {path}"
  | .malformedTree path => s!"Failed to deserialize script tree from {path}"
  | .unreadableConfig path => s!"Failed to read config file from {path}"
  | .malformedConfig path => s!"Failed to deserialize config from {path}"
  | .unreadableScript path => s!"Failed to read script from {path}"

abbrev FileContent := Option ByteArray

def FileContent.text? (content : FileContent) : Option String :=
  content.bind String.fromUTF8?

/-- The text of a file through a reader, with an error for each of the two. -/
def loadText (content : FileContent) (read : String → Option α) (unreadable malformed : LoadError) :
    Except LoadError α :=
  match content.text? with
  | none => .error unreadable
  | some text =>
    match read text with
    | none => .error malformed
    | some a => .ok a

def loadTree (path : String) (content : FileContent) : Except LoadError Tree :=
  loadText content Tree.ofText? (.unreadableTree path) (.malformedTree path)

def loadConfig (path : String) (content : FileContent) : Except LoadError Config :=
  loadText content Config.ofText? (.unreadableConfig path) (.malformedConfig path)

def loadScript (path : String) (content : FileContent) : Except LoadError String :=
  loadText content some (.unreadableScript path) (.unreadableScript path)

end StoryScript
