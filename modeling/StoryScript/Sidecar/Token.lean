import StoryScript.Text.Blank

/-!
# Words of a sidecar line

Behind its marker a sidecar line holds words between white space. A word `key=value` is a token; a
word without `=` says nothing. A value may stand in double quotes, and then a backslash takes the
character after it as it is, which is how white space and quotes get into a value.

## Main definitions

* `Token` — a key with its decoded value and whether that value was quoted.
* `tokens` — the tokens of a text, in order.
* `encode` — a value as it is written.
-/

namespace StoryScript.Sidecar

open Text

/-- A key with its value, decoded. -/
structure Token where
  key : String
  value : String
  quoted : Bool
deriving Repr, DecidableEq

/-- The characters of a key: all but `=` and white space. -/
def isKeyChar (c : Char) : Bool :=
  c != '=' && !isSpace c

/-- Reads a quoted value up to its closing quote and gives the text behind it. A value that is
never closed reaches to the end. -/
def quotedValue : List Char → List Char × List Char
  | [] => ([], [])
  | '\\' :: [] => ([], [])
  | '\\' :: c :: rest => ((quotedValue rest).1.cons c, (quotedValue rest).2)
  | c :: rest =>
    if c = '"' then ([], rest) else ((quotedValue rest).1.cons c, (quotedValue rest).2)

theorem length_quotedValue_le (cs : List Char) : (quotedValue cs).2.length ≤ cs.length := by
  fun_induction quotedValue cs <;> simp <;> omega

theorem length_dropWhile_le (p : Char → Bool) (cs : List Char) :
    (cs.dropWhile p).length ≤ cs.length :=
  (List.dropWhile_sublist p).length_le

/-- Reads the value behind a `=`: whether it is quoted, the value, and the text behind it. -/
def readValue : List Char → Bool × List Char × List Char
  | '"' :: rest => (true, quotedValue rest)
  | cs => (false, cs.takeWhile (!isSpace ·), cs.dropWhile (!isSpace ·))

theorem length_readValue_le (cs : List Char) : (readValue cs).2.2.length ≤ cs.length := by
  fun_cases readValue cs with
  | case1 rest => have := length_quotedValue_le rest; simp; omega
  | case2 => exact length_dropWhile_le _ _

/-- The tokens of a text. What ends a key is a `=` or white space; without the `=` the word is
passed over. -/
def tokens (cs : List Char) : List Token :=
  match _h : cs.dropWhile isKeyChar with
  | [] => []
  | c :: rest =>
    if c = '=' then
      ⟨.ofList (cs.takeWhile isKeyChar), .ofList (readValue rest).2.1, (readValue rest).1⟩ ::
        tokens (readValue rest).2.2
    else tokens rest
termination_by cs.length
decreasing_by
  all_goals
    have h1 := length_dropWhile_le isKeyChar cs
    have h2 := length_readValue_le rest
    simp only [_h, List.length_cons] at h1
    omega

/-- Whether a value can only be written in quotes. -/
def needsQuotes (value : String) : Bool :=
  value.isEmpty || value.toList.any fun c => isSpace c || c == '"' || c == '\\' || c == '='

/-- Puts a backslash in front of every quote and backslash. -/
def escape : List Char → List Char
  | [] => []
  | c :: cs => if c = '"' ∨ c = '\\' then '\\' :: c :: escape cs else c :: escape cs

/-- A value as it is written: in quotes when asked for or needed. -/
def encode (value : String) (quoted : Bool) : String :=
  if quoted || needsQuotes value then "\"" ++ .ofList (escape value.toList) ++ "\"" else value

/-- Reading a value back from behind its opening quote. -/
theorem quotedValue_escape (cs rest : List Char) :
    quotedValue (escape cs ++ '"' :: rest) = (cs, rest) := by
  fun_induction escape cs with
  | case1 => simp [quotedValue]
  | case2 c cs hc ih => rcases hc with rfl | rfl <;> simp [quotedValue, ih]
  | case3 c cs hc ih =>
    rw [not_or] at hc
    rw [List.cons_append, quotedValue] <;> simp_all

end StoryScript.Sidecar
