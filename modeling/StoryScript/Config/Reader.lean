import StoryScript.Config.Basic
import StoryScript.Decimal.Shortest
import StoryScript.Yaml.Reader

/-!
# Reading a configuration

A configuration is a YAML mapping. Settings that are not given keep their defaults and unknown ones
are passed over, but no setting may be given twice.

## Main definitions

* `floatOfScalar?`, `natOfScalar?` — numbers as they are spelled in YAML.
* `Config.ofYaml?`, `Config.ofText?` — a configuration from a node and from a text.
-/

namespace StoryScript

namespace Yaml

/-! ## Numbers -/

/-- An exponent with an optional sign, which has to end the text. -/
def exponent? (cs : List Char) : Option Int :=
  let (negative, ds) :=
    match cs with
    | '-' :: rest => (true, rest)
    | '+' :: rest => (false, rest)
    | cs => (false, cs)
  if ds.isEmpty || !ds.all Char.isDigit then none
  else some (if negative then -digitsValue ds else digitsValue ds)

/-- A decimal number without a sign: digits with a point somewhere, and an exponent. -/
def decimal? (cs : List Char) : Option Decimal := do
  let whole := cs.takeWhile Char.isDigit
  let cs := cs.dropWhile Char.isDigit
  let (fraction, cs) :=
    match cs with
    | '.' :: rest => (rest.takeWhile Char.isDigit, rest.dropWhile Char.isDigit)
    | cs => ([], cs)
  if whole.isEmpty && fraction.isEmpty then none
  let exponent ←
    match cs with
    | [] => some 0
    | c :: rest => if c == 'e' || c == 'E' then exponent? rest else none
  return ⟨digitsValue (whole ++ fraction), exponent - fraction.length⟩

def finite? (cs : List Char) : Option Float := do
  let (negative, cs) :=
    match cs with
    | '-' :: rest => (true, rest)
    | '+' :: rest => (false, rest)
    | cs => (false, cs)
  let x := Decimal.toFloat (← decimal? cs)
  if x.isFinite then some (if negative then -x else x) else none

/-- A float: a finite number, an infinity, or no number. -/
def floatOfScalar? (s : String) : Option Float :=
  let unsigned := match s.toList with
    | '+' :: rest => String.ofList rest
    | _ => s
  if s.toList.head? = some '+' && unsigned.toList.head?.any fun c => c == '+' || c == '-' then none
  else if [".inf", ".Inf", ".INF"].contains unsigned then some (1 / 0)
  else if ["-.inf", "-.Inf", "-.INF"].contains s then some (-1 / 0)
  else if [".nan", ".NaN", ".NAN"].contains s then some (0 / 0)
  else finite? unsigned.toList

/-- A number without a sign: to base sixteen, eight or two behind `0x`, `0o` or `0b`, and else to
base ten without zeros in front. -/
def unsigned? (cs : List Char) : Option Nat :=
  match cs with
  | '0' :: 'x' :: rest => digitsInBase? 16 rest
  | '0' :: 'o' :: rest => digitsInBase? 8 rest
  | '0' :: 'b' :: rest => digitsInBase? 2 rest
  | ['0'] => some 0
  | '0' :: _ => none
  | cs => digitsInBase? 10 cs

/-- A natural number of 64 bits. A sign may stand in front, but a minus only in front of zero. -/
def natOfScalar? (s : String) : Option Nat := do
  let n ←
    match s.toList with
    | '+' :: rest => unsigned? rest
    | '-' :: rest => (unsigned? rest).filter (· == 0)
    | cs => unsigned? cs
  if n < UInt64.size then some n else none

/-! ## Settings -/

/-- The entries of a mapping by name; a node that is empty has none. -/
def settings? : Yaml → Option (List (String × Yaml))
  | .plain "" => some []
  | .quoted "" => some []
  | .mapping entries => entries.mapM fun (key, value) =>
    match key with
    | .plain name => some (name, value)
    | .quoted name => some (name, value)
    | _ => none
  | _ => none

def setting? (entries : List (String × Yaml)) (name : String) (read : Yaml → Option α)
    (default : α) : Option α :=
  match entries.filter (·.1 == name) with
  | [] => some default
  | [(_, value)] => read value
  | _ => none

def float? : Yaml → Option Float
  | .plain s => floatOfScalar? s
  | _ => none

def nat? : Yaml → Option Nat
  | .plain s => natOfScalar? s
  | _ => none

def indentPolicy? : Yaml → Option Text.IndentPolicy
  | .plain "block" => some .block
  | .quoted "block" => some .block
  | .plain "warn" => some .warn
  | .quoted "warn" => some .warn
  | _ => none

end Yaml

def Spacing.ofYaml? (y : Yaml) : Option (Spacing Float) := do
  let entries ← y.settings?
  let d := Spacing.standard
  return ⟨← Yaml.setting? entries "node_width" Yaml.float? d.nodeWidth,
    ← Yaml.setting? entries "node_height" Yaml.float? d.nodeHeight,
    ← Yaml.setting? entries "vertical_gap" Yaml.float? d.verticalGap,
    ← Yaml.setting? entries "horizontal_gap" Yaml.float? d.horizontalGap,
    ← Yaml.setting? entries "label_gap_factor" Yaml.float? d.labelGapFactor⟩

namespace Config

def ofYaml? (y : Yaml) : Option Config := do
  let entries ← y.settings?
  let d : Config := {}
  return ⟨← Yaml.setting? entries "layout" Spacing.ofYaml? d.layout,
    ← Yaml.setting? entries "lock_timeout_ms" Yaml.nat? d.lockTimeoutMs,
    ← Yaml.setting? entries "indent_policy" Yaml.indentPolicy? d.indentPolicy⟩

def ofText? (s : String) : Option Config :=
  (Yaml.ofString? s).bind ofYaml?

end Config

end StoryScript
