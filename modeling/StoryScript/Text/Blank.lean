/-!
# White space

The characters that count as white space everywhere in a script, and the two operations built on
them: trimming a text and telling whether a line is blank.

## Main definitions

* `isSpace` — the Unicode property `White_Space`.
* `stripBoth`, `Trims` — a text without certain characters on either end, as it is computed and as
  it stands in the text.
* `isBlank` — a text of white space only.

## Main statements

* `stripBoth_eq_iff` — both are the same.
-/

namespace StoryScript.Text

/-- The Unicode property `White_Space`: twenty-five characters. -/
def isSpace (c : Char) : Bool :=
  let n := c.toNat
  (9 ≤ n && n ≤ 13) || n == 0x20 || n == 0x85 || n == 0xA0 || n == 0x1680 ||
    (0x2000 ≤ n && n ≤ 0x200A) || n == 0x2028 || n == 0x2029 || n == 0x202F || n == 0x205F ||
    n == 0x3000

/-- Drops the characters that satisfy `p` from both ends. -/
def stripBoth (p : Char → Bool) (cs : List Char) : List Char :=
  ((cs.dropWhile p).reverse.dropWhile p).reverse

/-- `trimmed` is what stands in `cs` between the characters that satisfy `p` on either end. -/
def Trims (p : Char → Bool) (cs trimmed : List Char) : Prop :=
  ∃ front behind, cs = front ++ trimmed ++ behind ∧ (∀ c ∈ front, p c = true) ∧
    (∀ c ∈ behind, p c = true) ∧ (∀ c ∈ trimmed.head?, p c = false) ∧
    ∀ c ∈ trimmed.getLast?, p c = false

def trimStart (s : String) : String :=
  .ofList (s.toList.dropWhile isSpace)

/-- Whether a text holds white space only; the empty text does. -/
def isBlank (s : String) : Bool :=
  s.toList.all isSpace

theorem dropWhile_eq_nil_iff (p : Char → Bool) (cs : List Char) :
    cs.dropWhile p = [] ↔ ∀ c ∈ cs, p c = true := by
  induction cs with
  | nil => simp
  | cons c cs ih => by_cases h : p c = true <;> simp [h, ih]

theorem stripBoth_eq_nil_iff (p : Char → Bool) (cs : List Char) :
    stripBoth p cs = [] ↔ ∀ c ∈ cs, p c = true := by
  rw [stripBoth, List.reverse_eq_nil_iff, dropWhile_eq_nil_iff]
  simp only [List.mem_reverse]
  constructor
  · intro h c hc
    rw [← List.takeWhile_append_dropWhile (p := p) (l := cs), List.mem_append] at hc
    exact hc.elim (List.all_eq_true.1 List.all_takeWhile c) (h c)
  · exact fun h c hc => h c ((List.dropWhile_sublist p).subset hc)

theorem head?_dropWhile_not (p : Char → Bool) (cs : List Char) :
    ∀ c ∈ (cs.dropWhile p).head?, p c = false := by
  intro c first
  have found := List.head?_dropWhile_not p cs
  rw [Option.mem_def.1 first] at found
  simpa using found

theorem dropWhile_eq_self {p : Char → Bool} {cs : List Char}
    (first : ∀ c ∈ cs.head?, p c = false) : cs.dropWhile p = cs := by
  cases cs with
  | nil => rfl
  | cons c cs => simp [first c rfl]

/-- Nothing is dropped when neither the first nor the last character is to go. -/
theorem stripBoth_eq_self {p : Char → Bool} {cs : List Char}
    (first : ∀ c ∈ cs.head?, p c = false) (last : ∀ c ∈ cs.getLast?, p c = false) :
    stripBoth p cs = cs := by
  rw [← List.head?_reverse] at last
  rw [stripBoth, dropWhile_eq_self first, dropWhile_eq_self last, List.reverse_reverse]

/-- Nothing is kept of characters in front that are all to go. -/
theorem stripBoth_append_left {p : Char → Bool} {cs : List Char} (all : ∀ c ∈ cs, p c = true)
    (rest : List Char) : stripBoth p (cs ++ rest) = stripBoth p rest := by
  rw [stripBoth, stripBoth, List.dropWhile_append_of_pos all]

/-- Nor of such characters behind. -/
theorem stripBoth_append_right {p : Char → Bool} {cs : List Char} (all : ∀ c ∈ cs, p c = true)
    (rest : List Char) : stripBoth p (rest ++ cs) = stripBoth p rest := by
  have all' : ∀ c ∈ cs.reverse, p c = true := fun c mem => all c (List.mem_reverse.1 mem)
  rw [stripBoth, stripBoth, List.dropWhile_append]
  split
  · next gone =>
    rw [(dropWhile_eq_nil_iff p cs).2 all, List.isEmpty_iff.1 gone]
  · rw [List.reverse_append, List.dropWhile_append_of_pos all']

/-- What is left is what stands between such characters and is to stay at both ends. -/
theorem stripBoth_eq_iff {p : Char → Bool} {cs trimmed : List Char} :
    stripBoth p cs = trimmed ↔ Trims p cs trimmed := by
  constructor
  · rintro rfl
    have front := List.takeWhile_append_dropWhile (p := p) (l := cs)
    have behind := congrArg List.reverse
      (List.takeWhile_append_dropWhile (p := p) (l := (cs.dropWhile p).reverse))
    rw [List.reverse_append, List.reverse_reverse] at behind
    refine ⟨cs.takeWhile p, ((cs.dropWhile p).reverse.takeWhile p).reverse, ?_,
      List.all_eq_true.1 List.all_takeWhile, ?_, ?_, ?_⟩
    · rw [stripBoth, List.append_assoc, behind, front]
    · intro c mem
      exact List.all_eq_true.1 List.all_takeWhile c (List.mem_reverse.1 mem)
    · -- the first character that is left is the first one behind those in front
      intro c first
      have inside : (cs.dropWhile p).head? = some c := by
        rw [← behind, List.head?_append, ← stripBoth, Option.mem_def.1 first, Option.some_or]
      exact head?_dropWhile_not p cs c inside
    · intro c last
      rw [stripBoth, List.getLast?_reverse] at last
      exact head?_dropWhile_not p _ c last
  · rintro ⟨front, behind, rfl, all_front, all_behind, first, last⟩
    rw [List.append_assoc, stripBoth_append_left all_front, stripBoth_append_right all_behind,
      stripBoth_eq_self first last]

end StoryScript.Text
