import StoryScript.Graph.Placement
import StoryScript.Text.Indent

/-!
# Configuration

## Main definitions

* `Config` — spacing of the picture, patience for locks, and what to do about faulty indents.
-/

namespace StoryScript

/-- The settings of the program; every one has a default. -/
structure Config where
  layout : Spacing Float := .standard
  /-- How long to wait for a lock, in milliseconds. -/
  lockTimeoutMs : Nat := 5000
  indentPolicy : Text.IndentPolicy := .block
deriving Repr

end StoryScript
