import StoryScript.Text.Indent

/-!
# Laws of lines and indents

A text and its lines determine each other, but for an empty line at the end: put together, it looks
like the line feed that ends the line before it. Taking the base indent off an excerpt can always be
undone.

## Main definitions

* `Unbroken` — a text without line feeds, as a line is.
* `feeds` — how many line feeds a text holds.
* `SameButLast`, `Mirrors` — lists of lines that differ by an empty last line at most, and lines that
  stand for those of a script.
* `IndentFault.further` — the same fault when the whole excerpt stands further in.

## Main statements

* `segments_append_feed` — the stretches of two texts with a line feed between them.
* `length_segments` — how many stretches there are.
* `toLines_unlines` — lines put together and taken apart again are the same, less an empty last one.
* `Document.toLines_toString`, `Document.mirrors` — the lines of a script are those of its text, but
  for an empty last one.
* `extract_eq_ok_iff`, `splice_eq_ok_iff`, `insertAt_eq_ok_iff` — what reading and editing lines
  comes to.
* `stripIndent_cases` — what becomes of an excerpt when its base indent is to come off.
* `restoreIndent_stripIndent` — an excerpt without its base indent gives the excerpt back.
* `firstFault?_map_addIndent` — lines that are put further in show the same first fault, told of
  where they now stand.
* `stripIndent_restoreIndent` — a text that is put further in loses both indents together.
-/

namespace StoryScript.Text

/-! ## Lines -/

/-- A text holds no line feed, and so it can be a line. -/
def Unbroken (s : String) : Prop :=
  '\n' ∉ s.toList

theorem segments_append_feed (a b : String) :
    segments (a ++ "\n" ++ b) = segments a ++ segments b := by
  simp [segments, List.splitOn_append_cons_self]

theorem segments_of_unbroken {s : String} (h : Unbroken s) : segments s = [s] := by
  simp [segments, List.splitOn_eq_singleton h]

theorem segments_ne_nil (s : String) : segments s ≠ [] := by
  simp [segments]

theorem unbroken_of_mem_segments {s l : String} (h : l ∈ segments s) : Unbroken l := by
  obtain ⟨cs, mem, rfl⟩ := List.mem_map.1 h
  rw [Unbroken, String.toList_ofList]
  have unbroken (xs : List Char) : ∀ cs ∈ xs.splitOn '\n', '\n' ∉ cs := by
    induction xs with
    | nil => simp [List.splitOn_nil]
    | cons x xs ih =>
      rw [List.splitOn_cons_eq_if_modifyHead]
      split
      · simpa using ih
      · next other =>
        cases rest : xs.splitOn '\n' with
        | nil => simp
        | cons first more =>
          rw [rest, List.forall_mem_cons] at ih
          have ne : '\n' ≠ x := fun same => other (beq_iff_eq.2 same.symm)
          simpa [ne, ih.1] using ih.2
  exact unbroken s.toList cs mem

theorem unbroken_append_iff {a b : String} : Unbroken (a ++ b) ↔ Unbroken a ∧ Unbroken b := by
  simp [Unbroken]

/-- How many line feeds a text holds. -/
def feeds (s : String) : Nat :=
  s.toList.count '\n'

theorem feeds_append (a b : String) : feeds (a ++ b) = feeds a + feeds b := by
  simp [feeds]

theorem feeds_eq_zero_iff {s : String} : feeds s = 0 ↔ Unbroken s := by
  rw [feeds, List.count_eq_zero, Unbroken]

/-- Every line feed begins another stretch. -/
theorem length_segments (s : String) : (segments s).length = feeds s + 1 := by
  have pieces (cs : List Char) : (cs.splitOn '\n').length = cs.count '\n' + 1 := by
    induction cs with
    | nil => simp [List.splitOn_nil]
    | cons c cs ih =>
      rw [List.splitOn_cons_eq_if_modifyHead, List.count_cons]
      split <;> simp [ih]
  rw [segments, List.length_map, pieces, feeds]

theorem unlines_append {a b : List String} (ha : a ≠ []) (hb : b ≠ []) :
    unlines (a ++ b) = unlines a ++ "\n" ++ unlines b :=
  String.intercalate_append_of_ne_nil ha hb

theorem unlines_cons {l : String} {lines : List String} (h : lines ≠ []) :
    unlines (l :: lines) = l ++ "\n" ++ unlines lines :=
  String.intercalate_cons_of_ne_nil h

@[simp] theorem unlines_singleton (l : String) : unlines [l] = l :=
  String.intercalate_singleton

/-- The lines of a text are the stretches between its line feeds, less an empty one at the end. -/
theorem toLines_eq (s : String) :
    toLines s = if (segments s).getLast? = some "" then (segments s).dropLast else segments s := by
  unfold toLines Document.ofString
  split
  · next h =>
    obtain rfl : s = "" := by simpa using h
    rfl
  · next h =>
    obtain ⟨cs, hcs⟩ := List.getLast?_eq_some_iff.1 h
    have ends : s = String.ofList cs ++ "\n" ++ "" := String.toList_inj.1 (by simp [hcs])
    have last : segments s = segments (String.ofList cs) ++ [""] := by
      rw [ends, segments_append_feed, segments_of_unbroken (s := "") (by simp [Unbroken])]
    rw [last, hcs, List.dropLast_concat, if_pos List.getLast?_concat, List.dropLast_concat]
  · next c other h =>
    rw [if_neg]
    -- with an empty last stretch the text would be empty or end with a line feed
    intro last
    obtain ⟨init, split⟩ := List.getLast?_eq_some_iff.1 last
    have back := unlines_segments s
    rw [split] at back
    cases init with
    | nil =>
      rw [← back] at h
      simp at h
    | cons l init =>
      rw [unlines_append (by simp) (by simp)] at back
      rw [← back] at h
      simp only [unlines_singleton, String.append_empty, String.toList_append,
        List.getLast?_append] at h
      simp at h
      exact other h.symm

/-- Lines that are put together and taken apart again are the same, but an empty last line is
lost. -/
theorem toLines_unlines {lines : List String} (ne : lines ≠ [])
    (unbroken : ∀ l ∈ lines, Unbroken l) :
    toLines (unlines lines) = if lines.getLast? = some "" then lines.dropLast else lines := by
  rw [toLines_eq, segments_unlines ne unbroken]

theorem unbroken_of_mem_toLines {s l : String} (h : l ∈ toLines s) : Unbroken l := by
  rw [toLines_eq] at h
  split at h
  · exact unbroken_of_mem_segments (List.dropLast_subset _ h)
  · exact unbroken_of_mem_segments h

/-- Lists of lines that are the same, but for one empty line at the end that only one of them may
have. -/
def SameButLast (a b : List String) : Prop :=
  a = b ∨ b = a ++ [""] ∨ a = b ++ [""]

theorem SameButLast.symm {a b : List String} (h : SameButLast a b) : SameButLast b a :=
  h.imp Eq.symm Or.symm

/-- Up to a line that is not empty such lists are the same. -/
theorem SameButLast.take_eq {a b : List String} (h : SameButLast a b) {k : Nat} {l : String}
    (present : a[k]? = some l) (ne : l ≠ "") : a.take (k + 1) = b.take (k + 1) := by
  obtain ⟨inside, rfl⟩ := List.getElem?_eq_some_iff.1 present
  rcases h with rfl | rfl | rfl
  · rfl
  · rw [List.take_append_of_le_length (by omega)]
  · have before : k < b.length := by
      refine Nat.lt_of_not_le fun last => ?_
      have k_eq : k = b.length := by
        rw [List.length_append, List.length_singleton] at inside
        omega
      subst k_eq
      simp at ne
    rw [List.take_append_of_le_length (by omega)]

/-- Lines that stand for those of a script: an empty last one may be missing, and instead of none
there may be an empty one. -/
def Mirrors (held stored : List String) : Prop :=
  held = stored ∨ stored = held ++ [""] ∨ (held = [""] ∧ stored = [])

theorem Mirrors.sameButLast {held stored : List String} (h : Mirrors held stored) :
    SameButLast held stored := by
  refine h.imp_right (Or.imp_right ?_)
  rintro ⟨rfl, rfl⟩
  rfl

/-- All lines that stand for the same ones are the same, but for one empty line at the end. -/
theorem Mirrors.alike {a b stored : List String} (ha : Mirrors a stored) (hb : Mirrors b stored) :
    SameButLast a b := by
  rcases ha with rfl | rfl | ⟨rfl, rfl⟩
  · exact hb.sameButLast.symm
  · rcases hb with rfl | same | ⟨-, none_there⟩
    · exact .inr (.inl rfl)
    · exact .inl (List.append_cancel_right same)
    · simp at none_there
  · rcases hb with rfl | one | ⟨rfl, -⟩
    · exact .inr (.inr rfl)
    · simp at one
    · exact .inl rfl

/-- The lines of a text that was made of some lines. Only an empty last line, and a final line feed
without a line, make a difference. -/
theorem Document.toLines_toString {d : Document} (unbroken : ∀ l ∈ d.lines, Unbroken l) :
    toLines d.toString =
      if d.finalNewline then (if d.lines = [] then [""] else d.lines)
      else if d.lines.getLast? = some "" then d.lines.dropLast else d.lines := by
  obtain ⟨lines, finalNewline⟩ := d
  cases lines with
  | nil => cases finalNewline <;> rfl
  | cons l lines =>
    have ne : l :: lines ≠ [] := by simp
    cases finalNewline with
    | false =>
      have text : toString ⟨l :: lines, false⟩ = unlines (l :: lines) := by simp [toString]
      rw [text, toLines_unlines ne unbroken]
      simp
    | true =>
      have text : toString ⟨l :: lines, true⟩ = unlines (l :: lines ++ [""]) := by
        rw [unlines_append ne (by simp)]
        simp [toString]
      have unbroken' : ∀ m ∈ l :: lines ++ [""], Unbroken m := by
        intro m mem
        rcases List.mem_append.1 mem with mem | mem
        · exact unbroken m mem
        · simp_all [Unbroken]
      rw [text, toLines_unlines (by simp) unbroken', if_pos List.getLast?_concat,
        List.dropLast_concat]
      simp

/-- The lines of its text mirror those of a script. -/
theorem Document.mirrors {d : Document} (unbroken : ∀ l ∈ d.lines, Unbroken l) :
    Mirrors (toLines d.toString) d.lines := by
  rw [toLines_toString unbroken]
  split
  · split
    · next none_left => exact .inr (.inr ⟨rfl, none_left⟩)
    · exact .inl rfl
  · split
    · next last =>
      obtain ⟨init, split⟩ := List.getLast?_eq_some_iff.1 last
      exact .inr (.inl (by simp [split]))
    · exact .inl rfl

theorem getElem?_eq_of_take_eq {a b : List String} {k : Nat}
    (same : a.take (k + 1) = b.take (k + 1)) : a[k]? = b[k]? := by
  rw [← List.getElem?_take_of_lt (Nat.lt_succ_self k), same,
    List.getElem?_take_of_lt (Nat.lt_succ_self k)]

/-- Scripts with the same text have the same lines up to every line that is not empty. -/
theorem Document.take_eq_of_toString_eq {d d' : Document} (unbroken : ∀ l ∈ d.lines, Unbroken l)
    (unbroken' : ∀ l ∈ d'.lines, Unbroken l) (same : d.toString = d'.toString) {k : Nat}
    {l : String} (present : d.lines[k]? = some l) (ne : l ≠ "") :
    d.lines.take (k + 1) = d'.lines.take (k + 1) := by
  have text := (Document.mirrors unbroken).sameButLast.symm.take_eq present ne
  have present' : (toLines d.toString)[k]? = some l := by
    rw [← present, getElem?_eq_of_take_eq text]
  rw [same] at present' text
  exact text.trans ((Document.mirrors unbroken').sameButLast.take_eq present' ne)

/-! ## Ranges of lines -/

section

variable {lines lines' : List String} {first last line : Nat} {text : String} {written : Written}

theorem extract_eq_ok_iff : extract lines first last = .ok text ↔
    (first ≤ last ∧ last < lines.length) ∧ text = unlines (lines.extract first (last + 1)) := by
  unfold extract checkRange
  by_cases inside : first ≤ last ∧ last < lines.length
  · simp [inside, bind, Except.bind, pure, Except.pure, List.extract_eq_take_drop, eq_comm]
  · simp [inside, bind, Except.bind]

theorem splice_eq_ok_iff : splice lines first last text = .ok (lines', written) ↔
    (first ≤ last ∧ last < lines.length) ∧
      lines' = lines.take first ++ toLines text ++ lines.drop (last + 1) ∧
      written = ⟨first, (toLines text).length,
        (toLines text).length - (last + 1 - first : Nat)⟩ := by
  unfold splice checkRange
  by_cases inside : first ≤ last ∧ last < lines.length
  · simp [inside, bind, Except.bind, pure, Except.pure, eq_comm]
  · simp [inside, bind, Except.bind]

theorem insertAt_eq_ok_iff : insertAt lines line text = .ok (lines', written) ↔
    line ≤ lines.length ∧ lines' = lines.take line ++ toLines text ++ lines.drop line ∧
      written = ⟨line, (toLines text).length, (toLines text).length⟩ := by
  unfold insertAt
  by_cases inside : line ≤ lines.length
  · simp [inside, eq_comm]
  · simp [inside]

end

/-! ## Indents -/

/-- A line without the indent `base`; a blank line has none to lose. -/
def dropIndent (base line : String) : String :=
  if isBlank line then line else .ofList (line.toList.drop base.length)

/-- A line with an indent in front; a blank line gets none. -/
def addIndent (indent line : String) : String :=
  if isBlank line then line else indent ++ line

theorem restoreIndent_eq (text indent : String) :
    restoreIndent text indent = unlines ((segments text).map (addIndent indent)) := rfl

/-- The same fault of a line when the whole excerpt stands `more` characters further in. -/
def IndentFault.further (more : Nat) : IndentFault → IndentFault
  | .shallow line found base => .shallow line (found + more) (base + more)
  | .mixed line => .mixed line

theorem isSpace_of_isIndentChar {c : Char} (h : isIndentChar c = true) : isSpace c = true := by
  simp only [isIndentChar, Bool.or_eq_true, beq_iff_eq] at h
  rcases h with rfl | rfl <;> decide

theorem isIndentChar_of_mem_leadingIndent {line : String} {c : Char}
    (h : c ∈ (leadingIndent line).toList) : isIndentChar c = true := by
  rw [leadingIndent, String.toList_ofList] at h
  exact List.all_eq_true.1 List.all_takeWhile c h

theorem isIndentChar_of_mem_baseIndent {lines : List String} {c : Char}
    (h : c ∈ (baseIndent lines).toList) : isIndentChar c = true := by
  unfold baseIndent at h
  split at h
  · exact isIndentChar_of_mem_leadingIndent h
  · simp at h

section

variable {base line : String} {number : Nat} {lines : List String}
  (indent : ∀ c ∈ base.toList, isIndentChar c = true)

include indent

theorem leadingIndent_append (line : String) :
    leadingIndent (base ++ line) = base ++ leadingIndent line := by
  simp [leadingIndent, List.takeWhile_append_of_pos indent]

/-- A line is not at fault exactly when it starts with the base indent or is blank. -/
theorem indentFault?_eq_none_iff : indentFault? base number line = none ↔
    (isBlank line = false → base.toList <+: line.toList) := by
  unfold indentFault?
  cases blank : isBlank line with
  | true => simp
  | false =>
    -- a line that starts with the base indent has as much indent, at least
    have deep (starts : base.toList <+: line.toList) :
        ¬ (leadingIndent line).length < base.length := by
      obtain ⟨rest, split⟩ := starts
      obtain rfl : line = base ++ .ofList rest := String.toList_inj.1 (by simp [split])
      rw [leadingIndent_append indent, String.length_append]
      omega
    by_cases starts : base.toList <+: line.toList
    · simp [starts, deep starts]
    · simp only [starts, imp_false, Bool.false_eq_true, if_false]
      split <;> simp [starts]

theorem firstFault?_eq_none_iff : firstFault? base number lines = none ↔
    ∀ line ∈ lines, isBlank line = false → base.toList <+: line.toList := by
  induction lines generalizing number with
  | nil => simp [firstFault?]
  | cons line lines ih =>
    simp [firstFault?, Option.orElse_eq_orElse, Option.orElse_eq_or, Option.or_eq_none_iff,
      indentFault?_eq_none_iff indent, ih]

end

/-- A line is its indent with what is left of it. -/
theorem append_dropIndent {base line : String} (text : isBlank line = false)
    (starts : base.toList <+: line.toList) : base ++ dropIndent base line = line := by
  obtain ⟨rest, split⟩ := starts
  have dropped : line.toList.drop base.length = rest := by
    rw [← split, ← String.length_toList, List.drop_left]
  simp [dropIndent, text, dropped, ← String.toList_inj, split]

/-- Putting an indent back in front of a line from which it was taken. -/
theorem addIndent_dropIndent {base line : String}
    (indent : ∀ c ∈ base.toList, isIndentChar c = true)
    (starts : isBlank line = false → base.toList <+: line.toList) :
    addIndent base (dropIndent base line) = line := by
  cases blank : isBlank line with
  | true => simp [addIndent, dropIndent, blank]
  | false =>
    have whole := append_dropIndent blank (starts blank)
    -- what is left of the line is not blank, as all that was taken off is
    have text : isBlank (dropIndent base line) = false := by
      rw [← whole, isBlank, String.toList_append, List.all_append] at blank
      have spaces : base.toList.all isSpace = true :=
        List.all_eq_true.2 fun c mem => isSpace_of_isIndentChar (indent c mem)
      simpa [isBlank, spaces] using blank
    rw [addIndent, text]
    exact whole

theorem unbroken_dropIndent {base line : String} (h : Unbroken line) :
    Unbroken (dropIndent base line) := by
  unfold dropIndent
  split
  · exact h
  · rw [Unbroken, String.toList_ofList]
    exact fun mem => h (List.mem_of_mem_drop mem)

@[simp] theorem dropIndent_empty : dropIndent "" = id := by
  funext line
  simp [dropIndent]

/-- The lines of an excerpt are its lines still when an indent was taken off them. -/
theorem segments_unlines_dropIndent (base excerpt : String) :
    segments (unlines ((segments excerpt).map (dropIndent base))) =
      (segments excerpt).map (dropIndent base) := by
  refine segments_unlines (by simp [segments_ne_nil]) fun l mem => ?_
  obtain ⟨line, mem', rfl⟩ := List.mem_map.1 mem
  exact unbroken_dropIndent (unbroken_of_mem_segments mem')

/-- There is no base indent, or a line is at fault and the excerpt stays as it is, or every line
that is not blank starts with the base indent and loses it. -/
theorem stripIndent_cases (excerpt : String) :
    let base := baseIndent (segments excerpt)
    let fault? := firstFault? base 1 (segments excerpt)
    (base = "" ∧ stripIndent excerpt = ⟨{}, excerpt⟩) ∨
      (base ≠ "" ∧ ∃ fault, fault? = some fault ∧
        stripIndent excerpt = ⟨{ error := some fault.message }, excerpt⟩) ∨
      (base ≠ "" ∧ fault? = none ∧ stripIndent excerpt =
        ⟨{ indent := base, stripped := true }, unlines ((segments excerpt).map (dropIndent base))⟩)
      := by
  intro base fault?
  unfold stripIndent
  dsimp only
  split
  · next none_there => exact .inl ⟨String.isEmpty_iff.1 none_there, rfl⟩
  · next some_there =>
    have some_there : base ≠ "" := mt String.isEmpty_iff.2 some_there
    split
    · next fault faulty => exact .inr (.inl ⟨some_there, fault, faulty, rfl⟩)
    · next sound => exact .inr (.inr ⟨some_there, sound, rfl⟩)

/-- An excerpt is sound when none of its lines is at fault. -/
theorem error_stripIndent_eq_none_iff {excerpt : String} :
    (stripIndent excerpt).info.error = none ↔
      firstFault? (baseIndent (segments excerpt)) 1 (segments excerpt) = none := by
  rcases stripIndent_cases excerpt with ⟨none_there, kept⟩ | ⟨-, fault, faulty, kept⟩ |
      ⟨-, sound, stripped⟩
  · have no_indent : ∀ c ∈ ("" : String).toList, isIndentChar c = true := by simp
    simp [kept, none_there, firstFault?_eq_none_iff no_indent]
  · simp [kept, faulty]
  · simp [stripped, sound]

/-- A sound excerpt loses its base indent, be it empty or not. -/
theorem stripIndent_of_sound {excerpt : String}
    (sound : (stripIndent excerpt).info.error = none) :
    let base := baseIndent (segments excerpt)
    stripIndent excerpt = ⟨{ indent := base, stripped := !base.isEmpty },
      unlines ((segments excerpt).map (dropIndent base))⟩ := by
  intro base
  rcases stripIndent_cases excerpt with ⟨none_there, kept⟩ | ⟨-, fault, -, kept⟩ |
      ⟨some_there, -, stripped⟩
  · simp [kept, base, none_there]
  · simp [kept] at sound
  · simp [stripped, base, some_there]

/-- An excerpt without its base indent gives the excerpt back. -/
theorem restoreIndent_stripIndent (excerpt : String) :
    restoreIndent (stripIndent excerpt).text (stripIndent excerpt).info.indent = excerpt := by
  rcases stripIndent_cases excerpt with ⟨-, kept⟩ | ⟨-, fault, -, kept⟩ | ⟨-, sound, stripped⟩
  · rw [kept, restoreIndent_empty]
  · rw [kept, restoreIndent_empty]
  · have indent : ∀ c ∈ (baseIndent (segments excerpt)).toList, isIndentChar c = true :=
      fun c => isIndentChar_of_mem_baseIndent
    have line_by_line : (segments excerpt).map (addIndent (baseIndent (segments excerpt)) ∘
        dropIndent (baseIndent (segments excerpt))) = segments excerpt := by
      refine (List.map_congr_left fun line mem => ?_).trans (List.map_id _)
      exact addIndent_dropIndent indent ((firstFault?_eq_none_iff indent).1 sound line mem)
    rw [stripped, restoreIndent_eq, segments_unlines_dropIndent, List.map_map, line_by_line,
      unlines_segments]

/-! ## Another indent in front -/

section

variable {base line : String} {number : Nat} {lines : List String}
  (indent : ∀ c ∈ base.toList, isIndentChar c = true)

include indent

/-- An indent in front makes no line blank and none a line with text. -/
theorem isBlank_addIndent (line : String) : isBlank (addIndent base line) = isBlank line := by
  unfold addIndent
  split
  · rfl
  · have spaces : base.toList.all isSpace = true :=
      List.all_eq_true.2 fun c mem => isSpace_of_isIndentChar (indent c mem)
    simp [isBlank, spaces]

theorem unbroken_addIndent (h : Unbroken line) : Unbroken (addIndent base line) := by
  unfold addIndent
  split
  · exact h
  · refine unbroken_append_iff.2 ⟨fun mem => ?_, h⟩
    exact absurd (indent _ mem) (by decide)

theorem segments_restoreIndent (text : String) :
    segments (restoreIndent text base) = (segments text).map (addIndent base) := by
  rw [restoreIndent_eq]
  refine segments_unlines (by simp [segments_ne_nil]) fun l mem => ?_
  obtain ⟨line, mem', rfl⟩ := List.mem_map.1 mem
  exact unbroken_addIndent indent (unbroken_of_mem_segments mem')

/-- The base indent grows by the indent in front, unless all lines are blank. -/
theorem baseIndent_map_addIndent (text : ∃ line ∈ lines, isBlank line = false) :
    baseIndent (lines.map (addIndent base)) = base ++ baseIndent lines := by
  have same_first : (lines.map (addIndent base)).find? (!isBlank ·) =
      (lines.find? (!isBlank ·)).map (addIndent base) := by
    have blank_alike : (!isBlank ·) ∘ addIndent base = (!isBlank ·) :=
      funext fun line => by simp [isBlank_addIndent indent]
    rw [List.find?_map, blank_alike]
  unfold baseIndent
  rw [same_first]
  cases first : lines.find? (!isBlank ·) with
  | none =>
    obtain ⟨line, mem, textual⟩ := text
    simpa [textual] using List.find?_eq_none.1 first line mem
  | some line =>
    have textual : isBlank line = false := by simpa using List.find?_some first
    simp [addIndent, textual, leadingIndent_append indent]

/-- Both indents come off together. -/
theorem dropIndent_append_addIndent (more line : String) :
    dropIndent (base ++ more) (addIndent base line) = dropIndent more line := by
  unfold dropIndent
  rw [isBlank_addIndent indent]
  cases blank : isBlank line with
  | true => simp [addIndent, blank]
  | false =>
    have front : (base ++ more).length = base.toList.length + more.length := by
      rw [String.length_append, String.length_toList]
    simp only [addIndent, blank, Bool.false_eq_true, if_false]
    rw [front, String.toList_append, List.drop_length_add_append]

/-- A line disagrees with the indent just when it did so before, and in the same way. -/
theorem indentFault?_addIndent (more : String) :
    indentFault? (base ++ more) number (addIndent base line) =
      (indentFault? more number line).map (.further base.length) := by
  unfold indentFault?
  rw [isBlank_addIndent indent]
  cases blank : isBlank line with
  | true => rfl
  | false =>
    have moved : addIndent base line = base ++ line := by simp [addIndent, blank]
    have starts : (base ++ more).toList.isPrefixOf (base ++ line).toList =
        more.toList.isPrefixOf line.toList := by
      rw [Bool.eq_iff_iff, List.isPrefixOf_iff_prefix, List.isPrefixOf_iff_prefix,
        String.toList_append, String.toList_append, List.prefix_append_right_inj]
    rw [moved, leadingIndent_append indent, starts]
    simp only [String.length_append, Nat.add_lt_add_iff_left, Bool.false_eq_true, if_false]
    split
    · simp [IndentFault.further, Nat.add_comm]
    · split <;> rfl

/-- The first line that disagrees with the indent is the same one as before, in the same way. -/
theorem firstFault?_map_addIndent (more : String) :
    firstFault? (base ++ more) number (lines.map (addIndent base)) =
      (firstFault? more number lines).map (.further base.length) := by
  induction lines generalizing number with
  | nil => rfl
  | cons line lines ih =>
    rw [List.map_cons, firstFault?, firstFault?, indentFault?_addIndent indent, ih]
    cases indentFault? more number line <;> rfl

/-- A text that is put further in, and not by blank lines alone, is sound when it was so before.
Then it loses both indents together. -/
theorem stripIndent_restoreIndent {excerpt : String}
    (text : ∃ line ∈ segments excerpt, isBlank line = false)
    (sound : (stripIndent excerpt).info.error = none) :
    let more := (stripIndent excerpt).info.indent
    stripIndent (restoreIndent excerpt base) =
      ⟨{ indent := base ++ more, stripped := !(base ++ more).isEmpty }, (stripIndent excerpt).text⟩
      := by
  intro more
  have more_eq : baseIndent (segments excerpt) = more := by
    simp only [more, stripIndent_of_sound sound]
  have lines_eq := segments_restoreIndent indent excerpt
  have base_eq : baseIndent (segments (restoreIndent excerpt base)) = base ++ more := by
    rw [lines_eq, baseIndent_map_addIndent indent text, more_eq]
  have sound' : (stripIndent (restoreIndent excerpt base)).info.error = none := by
    rw [error_stripIndent_eq_none_iff, base_eq, lines_eq, firstFault?_map_addIndent indent,
      Option.map_eq_none_iff, ← more_eq]
    exact error_stripIndent_eq_none_iff.1 sound
  have line_by_line : dropIndent (base ++ more) ∘ addIndent base = dropIndent more :=
    funext fun line => dropIndent_append_addIndent indent more line
  rw [stripIndent_of_sound sound', base_eq, lines_eq, List.map_map, line_by_line]
  simp only [stripIndent_of_sound sound, more_eq]

end

end StoryScript.Text
