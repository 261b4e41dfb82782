import StoryScript.Sidecar.Line
import StoryScript.Text.Lemmas

/-!
# Laws of the sidecar line

Taking the sidecar line off an excerpt and putting it back gives the excerpt again, when the line is
written as it would be written anew and no blank line behind it gets lost.

## Main definitions

* `Metadata.values` — all that the notes of a statement say.
* `Tidy` — the lines of an excerpt whose sidecar line, if it has one, is written that way.

## Main statements

* `firstLine_unlines` — the first line of lines put together, and what is behind it.
* `getLast?_format` — a sidecar line does not end with white space.
* `feeds_format` — the line feeds in a line are those of its values.
* `parse_spaced` — white space around a line does not count.
* `ofLine_format` — the style of a line can be told from the line.
* `attach_split` — the sidecar line is put back as it was.
-/

namespace StoryScript.Sidecar

open Text

/-! ## The first line -/

theorem firstLine_of_unbroken {s : String} (h : Unbroken s) : firstLine s = (s, none) := by
  have all : ∀ c ∈ s.toList, (c != '\n') = true := fun c mem => by
    simpa using fun same : c = '\n' => h (same ▸ mem)
  have none_behind : s.toList.dropWhile (· != '\n') = [] :=
    (dropWhile_eq_nil_iff _ _).2 all
  have whole := List.takeWhile_append_dropWhile (p := (· != '\n')) (l := s.toList)
  rw [none_behind, List.append_nil] at whole
  simp [firstLine, whole, none_behind]

theorem firstLine_append_feed {a : String} (h : Unbroken a) (b : String) :
    firstLine (a ++ "\n" ++ b) = (a, some b) := by
  have all : ∀ c ∈ a.toList, (c != '\n') = true := fun c mem => by
    simpa using fun same : c = '\n' => h (same ▸ mem)
  simp [firstLine, List.takeWhile_append_of_pos all, List.dropWhile_append_of_pos all]

/-- The first of some lines put together, and the others put together behind it. -/
theorem firstLine_unlines {l : String} (h : Unbroken l) (lines : List String) :
    firstLine (unlines (l :: lines)) = (l, if lines = [] then none else some (unlines lines)) := by
  cases lines with
  | nil => simp [firstLine_of_unbroken h]
  | cons m lines =>
    rw [unlines_cons (by simp), firstLine_append_feed h]
    simp

/-- The first line is the first stretch of the text. -/
theorem exists_segments_eq (text : String) :
    ∃ rest, segments text = (firstLine text).1 :: rest := by
  obtain ⟨first, rest, lines⟩ := List.exists_cons_of_ne_nil (segments_ne_nil text)
  have unbroken : Unbroken first := unbroken_of_mem_segments (lines ▸ List.mem_cons_self)
  have first_eq : (firstLine text).1 = first := by
    rw [← unlines_segments text, lines, firstLine_unlines unbroken]
  exact ⟨rest, by rw [lines, first_eq]⟩

/-- A text is its first line, which holds no line feed, with what is behind it. -/
theorem firstLine_spec (s : String) :
    Unbroken (firstLine s).1 ∧
      s = (firstLine s).1 ++ ((firstLine s).2.map ("\n" ++ ·)).getD "" := by
  obtain ⟨rest, lines⟩ := exists_segments_eq s
  have unbroken : Unbroken (firstLine s).1 := unbroken_of_mem_segments (lines ▸ List.mem_cons_self)
  refine ⟨unbroken, ?_⟩
  have behind := congrArg Prod.snd (firstLine_unlines unbroken rest)
  rw [← lines, unlines_segments] at behind
  refine (unlines_segments s).symm.trans ?_
  rw [lines, behind]
  cases rest with
  | nil => simp
  | cons l rest => simp [unlines_cons, String.append_assoc]

/-! ## The line that is written -/

/-- What holds of the last characters of two texts holds of the last one of both together. -/
theorem getLast?_append_of {P : Char → Prop} {a b : List Char} (ha : ∀ c ∈ a.getLast?, P c)
    (hb : ∀ c ∈ b.getLast?, P c) : ∀ c ∈ (a ++ b).getLast?, P c := by
  rw [List.getLast?_append]
  cases last : b.getLast? with
  | none => exact ha
  | some x =>
    rw [last] at hb
    exact hb

/-- A value that stands without quotes holds no white space, no quote, no backslash and no `=`. -/
theorem plain_of_needsQuotes {value : String} (plain : needsQuotes value = false) :
    value ≠ "" ∧
      ∀ c ∈ value.toList, isSpace c = false ∧ c ≠ '"' ∧ c ≠ '\\' ∧ c ≠ '=' := by
  simpa [needsQuotes, and_assoc] using plain

theorem getLast?_encode (value : String) (quoted : Bool) :
    ∀ c ∈ (encode value quoted).toList.getLast?, isSpace c = false := by
  intro c last
  unfold encode at last
  split at last
  · have closing : "\"".toList.getLast? = some '"' := by decide
    rw [String.toList_append, List.getLast?_append, closing, Option.some_or,
      Option.mem_some_iff] at last
    subst last
    decide
  · next plain =>
    have plain' : needsQuotes value = false := by simp_all
    exact ((plain_of_needsQuotes plain').2 c (List.mem_of_getLast? last)).1

theorem getLast?_word (m : Metadata) (f : Field) :
    ∀ c ∈ (word m f).toList.getLast?, isSpace c = false := by
  unfold word
  split
  · simp
  · next value _ =>
    have sign : (" " ++ f.key ++ "=").toList.getLast? = some '=' := by
      cases f <;> decide
    rw [String.toList_append]
    refine getLast?_append_of ?_ (getLast?_encode value _)
    rw [sign]
    rintro c ⟨⟩
    decide

/-- A sidecar line does not end with white space. -/
theorem getLast?_format {m : Metadata} {line : String} (h : format m = some line) :
    ∀ c ∈ line.toList.getLast?, isSpace c = false := by
  unfold format at h
  split at h
  · cases h
  · cases h
    have closing : marker.toList.getLast? = some 'e' := by decide
    rw [String.toList_append]
    refine getLast?_append_of (by rw [closing]; rintro c ⟨⟩; decide) ?_
    have words (fs : List Field) :
        ∀ c ∈ (String.join (fs.map (word m))).toList.getLast?, isSpace c = false := by
      induction fs with
      | nil => simp
      | cons f fs ih =>
        rw [List.map_cons, String.join_cons, String.toList_append]
        exact getLast?_append_of (getLast?_word m f) ih
    exact words Field.all

/-- A sidecar line starts with its marker. -/
theorem head?_format {m : Metadata} {line : String} (h : format m = some line) :
    line.toList.head? = some '#' := by
  unfold format at h
  split at h
  · cases h
  · cases h
    have opening : marker.toList.head? = some '#' := by decide
    rw [String.toList_append, List.head?_append, opening, Option.some_or]

/-- Whether a carriage return ends a written line can be told from its last character. -/
theorem crlf_format {m : Metadata} {note : String} (h : format m = some note) (front : String)
    (crlf : Bool) :
    ((front ++ note ++ if crlf then "\r" else "").toList.getLast? == some '\r') = crlf := by
  cases crlf with
  | true => simp
  | false =>
    obtain ⟨cs, note_eq⟩ := List.head?_eq_some_iff.1 (head?_format h)
    obtain ⟨c, last⟩ : ∃ c, note.toList.getLast? = some c := by
      simp [note_eq, List.getLast?_cons]
    have text := getLast?_format h c last
    have ne : c ≠ '\r' := by
      rintro rfl
      revert text
      decide
    simp [List.getLast?_append, last, ne]

/-- The values of all notes, put together. -/
def Metadata.values (m : Metadata) : String :=
  String.join (Field.all.map fun f => (m.get f).getD "")

/-- Writing a value neither adds a line feed to it nor takes one away. -/
theorem feeds_encode (value : String) (quoted : Bool) :
    feeds (encode value quoted) = feeds value := by
  have escaped (cs : List Char) : (escape cs).count '\n' = cs.count '\n' := by
    fun_induction escape cs with
    | case1 => rfl
    | case2 c cs special ih => rcases special with rfl | rfl <;> simp [ih]
    | case3 c cs _ ih => rw [List.count_cons, List.count_cons, ih]
  unfold encode
  split
  · simp [feeds, escaped]
  · rfl

theorem feeds_word (m : Metadata) (f : Field) : feeds (word m f) = feeds ((m.get f).getD "") := by
  unfold word
  split
  · next none_there => rw [none_there, Option.getD_none]
  · next value note =>
    have key : feeds (" " ++ f.key ++ "=") = 0 := by
      cases f <;> decide
    rw [feeds_append, key, Nat.zero_add, feeds_encode, note, Option.getD_some]

/-- The line of some notes holds the line feeds of their values and no other. -/
theorem feeds_format {m : Metadata} {line : String} (h : format m = some line) :
    feeds line = feeds m.values := by
  have words (fs : List Field) : feeds (String.join (fs.map (word m))) =
      feeds (String.join (fs.map fun f => (m.get f).getD "")) := by
    induction fs with
    | nil => rfl
    | cons f fs ih =>
      rw [List.map_cons, List.map_cons, String.join_cons, String.join_cons, feeds_append,
        feeds_append, feeds_word, ih]
  unfold format at h
  split at h
  · cases h
  · cases h
    have mark : feeds marker = 0 := by decide
    rw [feeds_append, mark, Nat.zero_add, words Field.all, Metadata.values]

theorem unbroken_values_iff {m : Metadata} :
    Unbroken m.values ↔ ∀ f value, m.get f = some value → Unbroken value := by
  have all (fs : List Field) : Unbroken (String.join (fs.map fun f => (m.get f).getD "")) ↔
      ∀ f ∈ fs, ∀ value, m.get f = some value → Unbroken value := by
    induction fs with
    | nil => simp [Unbroken]
    | cons f fs ih =>
      rw [List.map_cons, String.join_cons, unbroken_append_iff, ih, List.forall_mem_cons]
      cases note : m.get f <;> simp [Unbroken]
  rw [Metadata.values, all]
  exact ⟨fun h f => h f f.mem_all, fun h f _ => h f⟩

/-! ## White space around the line -/

/-- A line is read the same whatever white space stands around it. -/
theorem parse_spaced {front line back : String} (space : ∀ c ∈ front.toList, isSpace c = true)
    (space' : ∀ c ∈ back.toList, isSpace c = true) :
    parse (front ++ line ++ back) = parse line := by
  have same : stripBoth isSpace (front ++ line ++ back).toList = stripBoth isSpace line.toList := by
    rw [String.toList_append, String.toList_append, stripBoth_append_right space',
      stripBoth_append_left space]
  unfold parse afterMarker?
  rw [same]

theorem parse_addIndent {indent : String} (space : ∀ c ∈ indent.toList, isIndentChar c = true)
    (line : String) : parse (addIndent indent line) = parse line := by
  unfold addIndent
  split
  · rfl
  · have space' : ∀ c ∈ indent.toList, isSpace c = true :=
      fun c mem => isSpace_of_isIndentChar (space c mem)
    have read : parse (indent ++ line ++ "") = parse line := parse_spaced space' (by simp)
    rwa [String.append_empty] at read

/-- The style in which a line was written can be told from the line. -/
theorem ofLine_format {m : Metadata} {note : String} (h : format m = some note) {style : Style}
    (indent : ∀ c ∈ style.indent.toList, isIndentChar c = true) :
    Style.ofLine (style.indent ++ note ++ if style.crlf then "\r" else "") = style := by
  obtain ⟨cs, note_eq⟩ := List.head?_eq_some_iff.1 (head?_format h)
  have mark : isIndentChar '#' = false := by decide
  have edge (ending : String) : leadingIndent (note ++ ending) = "" := by
    simp [leadingIndent, note_eq, mark]
  rw [Style.ofLine, crlf_format h, String.append_assoc, leadingIndent_append indent, edge,
    String.append_empty]

/-! ## Taking the line off and putting it back -/

/-- Lines whose sidecar line, if the first of them is one, is written as it would be written anew,
whatever its indent and its ending, and has no blank line behind it. The last line is not empty. -/
structure Tidy (lines : List String) : Prop where
  last : lines.getLast? ≠ some ""
  sidecar : ∀ first rest m, lines = first :: rest → parse first = some m →
    ∃ note ending, format m = some note ∧ (ending = "" ∨ ending = "\r") ∧
      first = leadingIndent first ++ note ++ ending
  next : ∀ first second rest m, lines = first :: second :: rest → parse first = some m →
    isBlank second = false

/-- The style of a sidecar line tells how to write it again. -/
theorem style_ofLine {line note ending : String} {m : Metadata} (h : format m = some note)
    (end_cases : ending = "" ∨ ending = "\r")
    (split : line = leadingIndent line ++ note ++ ending) :
    (Style.ofLine line).indent ++ note ++ (if (Style.ofLine line).crlf then "\r" else "") =
      line := by
  have line_eq : ∃ crlf : Bool,
      line = leadingIndent line ++ note ++ if crlf then "\r" else "" := by
    rcases end_cases with rfl | rfl
    · exact ⟨false, split⟩
    · exact ⟨true, split⟩
  obtain ⟨crlf, line_eq⟩ := line_eq
  have crlf_eq : (Style.ofLine line).crlf = crlf := by
    rw [← crlf_format h (leadingIndent line) crlf, ← line_eq, Style.ofLine]
  rw [crlf_eq]
  exact line_eq.symm

section

variable {excerpt first : String} {rest : Option String} {m : Metadata}

theorem split_of_none (h : firstLine excerpt = (first, rest)) (other : parse first = none) :
    split excerpt = ({}, excerpt) := by
  simp only [split, h, other]

theorem split_of_some (h : firstLine excerpt = (first, rest)) (notes : parse first = some m) :
    split excerpt = (m, (rest.map dropBlankLine).getD "") := by
  simp only [split, h, notes]

theorem style?_of_some (h : firstLine excerpt = (first, rest)) (notes : parse first = some m) :
    style? excerpt = some (.ofLine first) := by
  simp only [style?, h, notes, Option.map_some]

/-- A body whose first line is not blank keeps it. -/
theorem dropBlankLine_of_text (h : firstLine excerpt = (first, rest))
    (text : isBlank first = false) : dropBlankLine excerpt = excerpt ∧ excerpt.isEmpty = false := by
  constructor
  · simp [dropBlankLine, h, text]
  · cases empty : excerpt.isEmpty with
    | false => rfl
    | true =>
      rw [String.isEmpty_iff.1 empty] at h
      obtain ⟨rfl, -⟩ := Prod.mk.inj h
      exact absurd text (by decide)

end

/-- The sidecar line of tidy lines is put back as it was. -/
theorem attach_split {lines : List String} (ne : lines ≠ [])
    (unbroken : ∀ l ∈ lines, Unbroken l) (tidy : Tidy lines) (other : Style) :
    attach (split (unlines lines)).2 (split (unlines lines)).1
      ((style? (unlines lines)).getD other) = unlines lines := by
  obtain ⟨first, rest, rfl⟩ := List.exists_cons_of_ne_nil ne
  rw [List.forall_mem_cons] at unbroken
  have first_eq := firstLine_unlines unbroken.1 rest
  cases notes : parse first with
  | none =>
    rw [split_of_none first_eq notes]
    rfl
  | some m =>
    obtain ⟨note, ending, written, end_cases, line_eq⟩ := tidy.sidecar first rest m rfl notes
    have line := style_ofLine written end_cases line_eq
    rw [split_of_some first_eq notes, style?_of_some first_eq notes, Option.getD_some]
    simp only [attach, written, line]
    cases rest with
    | nil => simp
    | cons second rest =>
      have text := tidy.next first second rest m rfl notes
      have second_eq := firstLine_unlines (List.forall_mem_cons.1 unbroken.2).1 rest
      obtain ⟨kept, nonempty⟩ := dropBlankLine_of_text second_eq text
      simp [kept, nonempty, unlines_cons]

end StoryScript.Sidecar
