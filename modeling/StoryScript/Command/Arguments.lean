/-!
# Arguments of the command line

The program has three commands with options of their own, and one option that may stand before or
behind the command. An option takes one value, behind it or attached to it, and may be given once.
Arguments are judged from left to right.

## Main definitions

* `Command`, `Invocation` — what is to be done.
* `Refusal` — why nothing is to be done: help was asked for, or the arguments make no sense.
* `parseArguments` — what a list of arguments asks for.
-/

namespace StoryScript

/-- A command with its arguments. -/
inductive Command where
  | layout (tree : String) (label : Option String)
  | search (tree script query : String)
  | excerpt (tree script node : String)
deriving Repr, DecidableEq

/-- A command and the configuration to run it with. -/
structure Invocation where
  config : Option String
  command : Command
deriving Repr, DecidableEq

/-- Why no command is run. -/
inductive Refusal where
  | help
  | version
  | usage
deriving Repr, DecidableEq

namespace Arguments

/-- An option: its names, and whether its value may be empty. -/
structure OptionSpec where
  long : String
  short : Option Char
  mayBeEmpty : Bool
deriving Repr, DecidableEq

/-- The options of a command, and whether it takes an argument of its own. -/
structure Grammar where
  options : List OptionSpec
  takesArgument : Bool

/-- The file with the configuration, before or behind the command. -/
def configOption : OptionSpec :=
  ⟨"config", none, false⟩

def treeOption : OptionSpec :=
  ⟨"tree", some 't', false⟩

def scriptOption : OptionSpec :=
  ⟨"script", some 's', false⟩

def labelOption : OptionSpec :=
  ⟨"label", some 'l', true⟩

def grammar? (name : String) : Option Grammar :=
  match name with
  | "layout" => some ⟨[treeOption, labelOption, configOption], false⟩
  | "search" => some ⟨[treeOption, scriptOption, configOption], true⟩
  | "excerpt" => some ⟨[treeOption, scriptOption, configOption], true⟩
  | _ => none

/-- What was given so far: values by long name, and the argument. -/
structure Given where
  values : List (String × String) := []
  argument : Option String := none

namespace Given

def value? (g : Given) (o : OptionSpec) : Option String :=
  (g.values.find? (·.1 == o.long)).map (·.2)

def take (g : Given) (o : OptionSpec) (value : String) : Except Refusal Given :=
  if (g.value? o).isSome || (value.isEmpty && !o.mayBeEmpty) then .error .usage
  else .ok { g with values := (o.long, value) :: g.values }

/-- Takes the argument, once and only where the command has one. -/
def takeArgument (g : Given) (grammar : Grammar) (value : String) : Except Refusal Given :=
  if grammar.takesArgument && g.argument.isNone then .ok { g with argument := some value }
  else .error .usage

end Given

/-- Whether an argument is a flag rather than a value. A single dash is a value. -/
def isFlag (arg : String) : Bool :=
  match arg.toList with
  | '-' :: _ :: _ => true
  | _ => false

/-- A word split at its first `=`. -/
def splitValue (cs : List Char) : String × Option String :=
  (.ofList (cs.takeWhile (· != '=')),
    match cs.dropWhile (· != '=') with
    | [] => none
    | _ :: value => some (.ofList value))

/-- What a flag asks for: an option, with the value attached to it. -/
def readFlag (options : List OptionSpec) (hasVersion : Bool) (arg : String) :
    Except Refusal (OptionSpec × Option String) :=
  match arg.toList with
  | '-' :: '-' :: word =>
    let (name, value) := splitValue word
    match options.find? (·.long == name) with
    | some o => .ok (o, value)
    | none =>
      if value.isSome then .error .usage
      else if name == "help" then .error .help
      else if name == "version" && hasVersion then .error .version
      else .error .usage
  | '-' :: c :: rest =>
    match options.find? (·.short == some c) with
    | some o =>
      .ok (o, match rest with
        | [] => none
        | '=' :: value => some (.ofList value)
        | value => some (.ofList value))
    | none =>
      if c == 'h' then .error .help
      else if c == 'V' && hasVersion then .error .version
      else .error .usage
  | _ => .error .usage

/-- Reads the arguments behind a command. Behind `--` nothing is a flag. -/
def readCommand (grammar : Grammar) (given : Given) : List String → Except Refusal Given
  | [] => .ok given
  | arg :: rest =>
    if arg == "--" then rest.foldlM (fun g a => g.takeArgument grammar a) given
    else if isFlag arg then do
      match ← readFlag grammar.options false arg, rest with
      | (o, some value), rest => readCommand grammar (← given.take o value) rest
      | (_, none), [] => throw .usage
      | (o, none), value :: rest =>
        if isFlag value then throw .usage
        else readCommand grammar (← given.take o value) rest
    else do readCommand grammar (← given.takeArgument grammar arg) rest

/-- The command of a name, once its options are known; some options have to be given. -/
def command? (name : String) (g : Given) : Option Command := do
  let tree ← g.value? treeOption
  if name == "layout" then return .layout tree (g.value? labelOption)
  let script ← g.value? scriptOption
  let argument ← g.argument
  return if name == "search" then .search tree script argument else .excerpt tree script argument

def readHelp (names : List String) : Refusal :=
  match names with
  | [] => .help
  | [name] => if name == "help" || (grammar? name).isSome then .help else .usage
  | _ => .usage

end Arguments

open Arguments

/-- Reads arguments, `config` being the configuration given so far. The option behind the command
counts more than the one before it. -/
def parseFrom (given : Given) : List String → Except Refusal Invocation
  | [] => .error .usage
  | arg :: rest =>
    if arg == "--" then .error .usage
    else if isFlag arg then do
      match ← readFlag [configOption] true arg, rest with
      | (o, some value), rest => parseFrom (← given.take o value) rest
      | (_, none), [] => throw .usage
      | (o, none), value :: rest =>
        if isFlag value then throw .usage else parseFrom (← given.take o value) rest
    else
      match grammar? arg with
      | none => .error (if arg == "help" then readHelp rest else .usage)
      | some grammar => do
        let g ← readCommand grammar {} rest
        match command? arg g with
        | none => throw .usage
        | some command => return ⟨g.value? configOption <|> given.value? configOption, command⟩

/-- What a list of arguments asks for. -/
def parseArguments (args : List String) : Except Refusal Invocation :=
  parseFrom {} args

end StoryScript
