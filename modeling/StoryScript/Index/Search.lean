import StoryScript.Index.LineMap
import StoryScript.Text.Blank
import StoryScript.Text.Lowercase

/-!
# Searching a script

A line is found when its lowercase form holds that of the query. Only lines that some statement owns
are reported, each with its owner; a blank query finds nothing.

## Main definitions

* `Hit`, `search` — the lines that hold a text.
-/

namespace StoryScript

/-- A line that was found, and the statement that owns it. -/
structure Hit where
  line : Nat
  text : String
  entry : Entry
deriving Repr, DecidableEq

/-- Whether `xs` stands somewhere in a list, without a gap. -/
def occursIn (xs : List Char) : List Char → Bool
  | [] => xs.isEmpty
  | y :: ys => xs.isPrefixOf (y :: ys) || occursIn xs ys

theorem occursIn_iff {xs ys : List Char} : occursIn xs ys = true ↔ xs <:+: ys := by
  induction ys with
  | nil => simp [occursIn]
  | cons y ys ih => simp [occursIn, ih, List.infix_cons_iff]

/-- Whether `text` holds `query`, letter case aside. -/
def holdsQuery (text query : String) : Bool :=
  occursIn (Text.lowercase query).toList (Text.lowercase text).toList

def search (lines : List String) (map : LineMap) (query : String) : List Hit :=
  if Text.isBlank query then []
  else
    lines.zipIdx.filterMap fun (text, line) =>
      if holdsQuery text query then (map.owner? line).map fun entry => ⟨line, text, entry⟩
      else none

theorem holdsQuery_empty_iff {query : String} : holdsQuery "" query = true ↔ query = "" := by
  rw [holdsQuery, occursIn_iff, Text.lowercase_eq_empty_iff.2 rfl, String.toList_empty,
    List.infix_nil, ← String.toList_empty, String.toList_inj, Text.lowercase_eq_empty_iff]

/-- An empty line at the end is never found. -/
theorem search_append_empty (lines : List String) (map : LineMap) (query : String) :
    search (lines ++ [""]) map query = search lines map query := by
  unfold search
  split
  · rfl
  · next text =>
    have other : holdsQuery "" query = false := by
      rw [Bool.eq_false_iff, ne_eq, holdsQuery_empty_iff]
      rintro rfl
      exact text rfl
    simp [List.zipIdx_append, other]

end StoryScript
