import StoryScript.Decimal.Digits
import StoryScript.Json.Basic

/-!
# Reading JSON

A reader for the grammar of RFC 8259: nothing but white space around the value, no control
characters in strings, no zeros in front of a number.

## Main definitions

* `Json.ofString?` — the value of a text, `none` if the text is not JSON.
-/

namespace StoryScript.Json.Reader

/-- The four characters that may stand between the parts of a value. -/
def isGap (c : Char) : Bool :=
  c == ' ' || c == '\t' || c == '\n' || c == '\r'

def skipGap (cs : List Char) : List Char :=
  cs.dropWhile isGap

/-- The number that four hexadecimal digits spell. -/
def hex4? (a b c d : Char) : Option Nat := do
  let a ← hexDigit? a
  let b ← hexDigit? b
  let c ← hexDigit? c
  let d ← hexDigit? d
  return ((a * 16 + b) * 16 + c) * 16 + d

def shortEscape? (c : Char) : Option Char :=
  match c with
  | '"' => some '"'
  | '\\' => some '\\'
  | '/' => some '/'
  | 'b' => some (Char.ofNat 8)
  | 'f' => some (Char.ofNat 12)
  | 'n' => some '\n'
  | 'r' => some '\r'
  | 't' => some '\t'
  | _ => none

/-- A unit of text in a string: a character, or a 16-bit unit that was written out. -/
inductive Piece where
  | char (c : Char)
  | unit (n : Nat)

/-- Joins surrogate pairs; half a pair makes the whole string unreadable. -/
def joinPieces : List Piece → Option (List Char)
  | [] => some []
  | .char c :: rest => (joinPieces rest).map (c :: ·)
  | .unit high :: .unit low :: rest =>
    if 0xD800 ≤ high ∧ high < 0xDC00 then
      if 0xDC00 ≤ low ∧ low < 0xE000 then
        (joinPieces rest).map
          (Char.ofNat (0x10000 + (high - 0xD800) * 0x400 + (low - 0xDC00)) :: ·)
      else none
    else if 0xDC00 ≤ high ∧ high < 0xE000 then none
    else (joinPieces (.unit low :: rest)).map (Char.ofNat high :: ·)
  | .unit n :: rest =>
    if 0xD800 ≤ n ∧ n < 0xE000 then none else (joinPieces rest).map (Char.ofNat n :: ·)

/-- Reads a string behind its opening quote, in reverse. -/
def pieces (done : List Piece) : List Char → Option (List Piece × List Char)
  | [] => none
  | '"' :: rest => some (done, rest)
  | '\\' :: 'u' :: a :: b :: c :: d :: rest => do pieces (.unit (← hex4? a b c d) :: done) rest
  | '\\' :: c :: rest => do pieces (.char (← shortEscape? c) :: done) rest
  | c :: rest => if c.toNat < 0x20 then none else pieces (.char c :: done) rest

def string (cs : List Char) : Option (Option String × List Char) := do
  let (ps, rest) ← pieces [] cs
  return ((joinPieces ps.reverse).map String.ofList, rest)

def digits (cs : List Char) : List Char × List Char :=
  (cs.takeWhile Char.isDigit, cs.dropWhile Char.isDigit)

def fraction : List Char → Option (Option (List Char) × List Char)
  | '.' :: rest =>
    match digits rest with
    | ([], _) => none
    | (ds, rest) => some (some ds, rest)
  | cs => some (none, cs)

def exponent : List Char → Option (Option Int × List Char)
  | c :: rest =>
    if c = 'e' ∨ c = 'E' then
      let (negative, rest) :=
        match rest with
        | '-' :: r => (true, r)
        | '+' :: r => (false, r)
        | r => (false, r)
      match digits rest with
      | ([], _) => none
      | (ds, rest) => some (some (if negative then -digitsValue ds else digitsValue ds), rest)
    else some (none, c :: rest)
  | [] => some (none, [])

/-- Digits in front of the point: a single zero, or no zero in front. -/
def integerPart (cs : List Char) : Option (List Char × List Char) :=
  match digits cs with
  | ([], _) => none
  | (['0'], rest) => some (['0'], rest)
  | ('0' :: _, _) => none
  | (ds, rest) => some (ds, rest)

/-- The number spelled by sign, digits, fraction and exponent. Integers have 64 bits, signed or
not; what does not fit is a float, and so is a zero with a sign. -/
def numberValue (negative : Bool) (ds : List Char) (frac : Option (List Char))
    (exp : Option Int) : Json :=
  let asFloat :=
    let frac := frac.getD []
    let x := Decimal.toFloat ⟨digitsValue (ds ++ frac), exp.getD 0 - frac.length⟩
    if x.isFinite then .ofFloat (if negative then -x else x) else .unreadable
  if frac.isSome || exp.isSome then asFloat
  else
    let n := digitsValue ds
    if negative then if n = 0 ∨ -(n : Int) < Int64.minValue.toInt then asFloat else .ofInt (-n)
    else if n < UInt64.size then .ofNat n else asFloat

def number (cs : List Char) : Option (Json × List Char) := do
  let (negative, cs) := match cs with
    | '-' :: rest => (true, rest)
    | cs => (false, cs)
  let (ds, cs) ← integerPart cs
  let (frac, cs) ← fraction cs
  let (exp, cs) ← exponent cs
  return (numberValue negative ds frac exp, cs)

def word (w : String) (value : Json) (cs : List Char) : Option (Json × List Char) :=
  if w.toList.isPrefixOf cs then some (value, cs.drop w.toList.length) else none

/-- An object, unless one of its names is unreadable. -/
def objectOf (fields : List (Option String × Json)) : Json :=
  match fields.mapM fun (k, v) => k.map (·, v) with
  | some fields => .object fields
  | none => .unreadable

mutual

/-- Reads a value; every step takes a character, so the length of the text bounds the steps. -/
def value : Nat → List Char → Option (Json × List Char)
  | 0, _ => none
  | fuel + 1, cs =>
    match skipGap cs with
    | '"' :: rest => do
      let (s, rest) ← string rest
      return ((s.map Json.string).getD .unreadable, rest)
    | '[' :: rest =>
      match skipGap rest with
      | ']' :: rest => some (.array [], rest)
      | rest => do
        let (xs, rest) ← items fuel [] rest
        return (.array xs, rest)
    | '\x7b' :: rest =>
      match skipGap rest with
      | '\x7d' :: rest => some (.object [], rest)
      | rest => do
        let (fs, rest) ← fields fuel [] rest
        return (objectOf fs, rest)
    | 'n' :: rest => word "null" .null ('n' :: rest)
    | 't' :: rest => word "true" (.bool true) ('t' :: rest)
    | 'f' :: rest => word "false" (.bool false) ('f' :: rest)
    | cs => number cs

/-- Reads the items of an array up to its closing bracket. -/
def items : Nat → List Json → List Char → Option (List Json × List Char)
  | 0, _, _ => none
  | fuel + 1, done, cs => do
    let (x, rest) ← value fuel cs
    match skipGap rest with
    | ',' :: rest => items fuel (x :: done) rest
    | ']' :: rest => some ((x :: done).reverse, rest)
    | _ => none

/-- Reads the fields of an object up to its closing brace. -/
def fields : Nat → List (Option String × Json) → List Char →
    Option (List (Option String × Json) × List Char)
  | 0, _, _ => none
  | fuel + 1, done, cs => do
    match skipGap cs with
    | '"' :: rest =>
      let (k, rest) ← string rest
      match skipGap rest with
      | ':' :: rest =>
        let (x, rest) ← value fuel rest
        match skipGap rest with
        | ',' :: rest => fields fuel ((k, x) :: done) rest
        | '\x7d' :: rest => some (((k, x) :: done).reverse, rest)
        | _ => none
      | _ => none
    | _ => none

end

end Reader

def ofString? (s : String) : Option Json :=
  let cs := s.toList
  match Reader.value (cs.length + 1) cs with
  | some (j, rest) => if (Reader.skipGap rest).isEmpty then some j else none
  | none => none

end StoryScript.Json
