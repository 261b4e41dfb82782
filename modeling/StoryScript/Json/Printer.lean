import StoryScript.Json.Basic

/-!
# Printing JSON

## Main definitions

* `floatText` — a float with the fewest digits that read back.
* `Json.compact`, `Json.pretty` — a value on one line, and spread over lines with two spaces of
  indent for each level.
-/

namespace StoryScript

/-- `n` zeros. -/
def zeros (n : Int) : String :=
  .ofList (List.replicate n.toNat '0')

/-- A positive decimal: positional between `1e-5` and `1e16`, always with a decimal point there,
and otherwise with one digit in front of the point and an exponent. -/
def decimalText (d : Decimal) : String :=
  let ds := Nat.toDigits 10 d.digits
  let point := d.exponent + ds.length
  if 0 ≤ d.exponent ∧ point ≤ 16 then .ofList ds ++ zeros d.exponent ++ ".0"
  else if 0 < point ∧ point ≤ 16 then
    .ofList (ds.take point.toNat) ++ "." ++ .ofList (ds.drop point.toNat)
  else if -5 < point ∧ point ≤ 0 then "0." ++ zeros (-point) ++ .ofList ds
  else
    let behind := if ds.length = 1 then "" else "." ++ .ofList (ds.drop 1)
    .ofList (ds.take 1) ++ behind ++ "e" ++ toString (point - 1)

def floatText (x : Float) : String :=
  let sign := if x.toBits < 0x8000000000000000 then "" else "-"
  sign ++ if x == 0 then "0.0" else decimalText (.ofFloat x)

/-- A number; floats that are not finite have no spelling. -/
def Number.text : Number → String
  | .int n => toString n
  | .float x => if x.isFinite then floatText x else "null"

namespace Json

def escapeChar (c : Char) : List Char :=
  if c = '"' then ['\\', '"']
  else if c = '\\' then ['\\', '\\']
  else if c = '\n' then ['\\', 'n']
  else if c = '\r' then ['\\', 'r']
  else if c = '\t' then ['\\', 't']
  else if c = Char.ofNat 8 then ['\\', 'b']
  else if c = Char.ofNat 12 then ['\\', 'f']
  else if c.toNat < 0x20 then
    ['\\', 'u', '0', '0'] ++ [Nat.digitChar (c.toNat / 16), Nat.digitChar (c.toNat % 16)]
  else [c]

def quote (s : String) : String :=
  "\"" ++ .ofList (s.toList.flatMap escapeChar) ++ "\""

mutual

def compact : Json → String
  | .null => "null"
  | .bool b => if b then "true" else "false"
  | .number n => n.text
  | .string s => quote s
  | .array items => "[" ++ ",".intercalate (compactItems items) ++ "]"
  | .object fields => "\x7b" ++ ",".intercalate (compactFields fields) ++ "\x7d"
  | .unreadable => "null"

def compactItems : List Json → List String
  | [] => []
  | j :: js => compact j :: compactItems js

def compactFields : List (String × Json) → List String
  | [] => []
  | (k, j) :: js => (quote k ++ ":" ++ compact j) :: compactFields js

end

/-- Items between brackets, each on a line of its own under the given indent. -/
def spread (indent opening closing : String) (items : List String) : String :=
  if items.isEmpty then opening ++ closing
  else
    let inner := "\n" ++ indent ++ "  "
    opening ++ inner ++ ("," ++ inner).intercalate items ++ "\n" ++ indent ++ closing

mutual

/-- A value spread over lines, the lines behind the first starting with `indent`. -/
def prettyAt (indent : String) : Json → String
  | .array items => spread indent "[" "]" (prettyItems (indent ++ "  ") items)
  | .object fields => spread indent "\x7b" "\x7d" (prettyFields (indent ++ "  ") fields)
  | .null => "null"
  | .bool b => if b then "true" else "false"
  | .number n => n.text
  | .string s => quote s
  | .unreadable => "null"

def prettyItems (indent : String) : List Json → List String
  | [] => []
  | j :: js => prettyAt indent j :: prettyItems indent js

def prettyFields (indent : String) : List (String × Json) → List String
  | [] => []
  | (k, j) :: js => (quote k ++ ": " ++ prettyAt indent j) :: prettyFields indent js

end

def pretty (j : Json) : String :=
  prettyAt "" j

end Json

end StoryScript
