import StoryScript.Command.Run

/-!
# The program

Runs the command that the arguments ask for and prints its result as JSON. The exit code is 1 when
the command fails and 2 when the arguments make no sense.
-/

namespace StoryScript

def usage : String :=
  "Usage: storyscript [--config FILE] COMMAND\n\n" ++
  "Commands:\n" ++
  "  layout --tree FILE [--label NAME]           draw the labels of a tree\n" ++
  "  search --tree FILE --script FILE QUERY      find lines and the statements that own them\n" ++
  "  excerpt --tree FILE --script FILE NODE_ID   show the text of a statement for editing"

def readFile (path : String) : IO FileContent := do
  try
    return some (← IO.FS.readBinFile path)
  catch _ =>
    return none

end StoryScript

open StoryScript

/-- Runs the program. -/
def main (args : List String) : IO UInt32 := do
  match parseArguments args with
  | .error .help =>
    IO.println usage
    return 0
  | .error .version =>
    IO.println "storyscript 0.1.0"
    return 0
  | .error .usage =>
    IO.eprintln usage
    return 2
  | .ok invocation =>
    match ← invocation.run readFile with
    | .ok json =>
      IO.println json.pretty
      return 0
    | .error e =>
      IO.eprintln ("Error: " ++ e.message)
      return 1
