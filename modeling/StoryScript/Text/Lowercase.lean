import StoryScript.Text.CaseTables

/-!
# Lowercase

Every character is mapped on its own, with one exception: a capital sigma that ends a word becomes
a final sigma. It ends a word when a cased letter stands before it and none behind it, characters
that do not count as surroundings left out.

## Main definitions

* `lowerChar` — the lowercase form of a character on its own.
* `lowercase` — the lowercase form of a text.
-/

namespace StoryScript.Text

/-- Whether the next character that counts is a cased letter. -/
def meetsCased (cs : List Char) : Bool :=
  match cs.dropWhile fun c => inRanges caseIgnorableRanges c.toNat with
  | [] => false
  | c :: _ => inRanges casedRanges c.toNat

/-- The lowercase form of a character on its own. A dotted capital I becomes two characters. -/
def lowerChar (c : Char) : List Char :=
  if c.toNat < 128 then [c.toLower]
  else if c.toNat = 0x130 then ['i', Char.ofNat 0x307]
  else
    match lowercaseRuns.find? fun r =>
      r.first ≤ c.toNat && c.toNat ≤ r.last && (c.toNat - r.first) % r.stride == 0 with
    | none => [c]
    | some r => [Char.ofNat (c.toNat + r.shift).toNat]

/-- The lowercase form of a capital sigma with `before`, read backwards, and `after` around it. -/
def lowerSigma (before after : List Char) : Char :=
  if meetsCased before && !meetsCased after then 'ς' else 'σ'

/-- Lowercase of the rest of a text of which `before` was read, kept in reverse. -/
def lowerFrom (before : List Char) : List Char → List Char
  | [] => []
  | c :: rest =>
    (if c = 'Σ' then [lowerSigma before rest] else lowerChar c) ++ lowerFrom (c :: before) rest

/-- The lowercase form of a text. -/
def lowercase (s : String) : String :=
  .ofList (lowerFrom [] s.toList)

theorem lowerChar_ne_nil (c : Char) : lowerChar c ≠ [] := by
  unfold lowerChar
  repeat' split
  all_goals simp

/-- Only the empty text has an empty lowercase form. -/
theorem lowercase_eq_empty_iff {s : String} : lowercase s = "" ↔ s = "" := by
  rw [lowercase, ← String.toList_inj, String.toList_ofList, ← String.toList_inj]
  cases s.toList with
  | nil => simp [lowerFrom]
  | cons c rest =>
    rw [lowerFrom, String.toList_empty]
    split <;> simp [lowerChar_ne_nil]

end StoryScript.Text
