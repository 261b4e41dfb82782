import StoryScript.Proofs.NoteLines
import StoryScript.Proofs.NoteWords
import StoryScript.Proofs.Resaving

/-!
# Lines that survive a save

A statement may look in any way when it is opened: its indent may be uneven, its sidecar line may be
odd, and blank lines may stand behind that. A save of what was opened writes the sidecar line anew
and drops a blank line. All other lines that hold text stay, byte for byte and in their order.

## Main definitions

* `Text.inked` — the lines that are not blank.

## Main statements

* `Text.inked_toLines` — the final line feed makes no difference to them.
* `Sidecar.value_subset_of_mem_tokens` — a value is made of characters of its line.
* `Sidecar.inked_split`, `Sidecar.inked_attach` — what is taken off an excerpt and what is put in
  front of a body, as lines with text.
* `Session.text_keeps_lines` — what a save of an unchanged statement does to the script.
-/

namespace StoryScript

namespace Text

/-- The lines that are not blank. -/
def inked (lines : List String) : List String :=
  lines.filter (!isBlank ·)

theorem inked_append (a b : List String) : inked (a ++ b) = inked a ++ inked b :=
  List.filter_append a b

theorem inked_cons_of_blank {line : String} (blank : isBlank line = true) (lines : List String) :
    inked (line :: lines) = inked lines := by
  simp [inked, blank]

theorem inked_cons_of_text {line : String} (text : isBlank line = false) (lines : List String) :
    inked (line :: lines) = line :: inked lines := by
  simp [inked, text]

/-- The final line feed of a text makes no difference. -/
theorem inked_toLines (s : String) : inked (toLines s) = inked (segments s) := by
  rw [toLines_eq]
  split
  · next last =>
    obtain ⟨init, split⟩ := List.getLast?_eq_some_iff.1 last
    rw [split, List.dropLast_concat, inked_append, inked_cons_of_blank rfl]
    exact (List.append_nil _).symm
  · rfl

/-- The lines of an excerpt are those of the script in its range. -/
theorem inked_of_extract {lines : List String} {first last : Nat} {excerpt : String}
    (unbroken : ∀ l ∈ lines, Unbroken l) (read : extract lines first last = .ok excerpt) :
    inked lines = inked (lines.take first) ++ inked (toLines excerpt) ++
      inked (lines.drop (last + 1)) := by
  obtain ⟨⟨forward, inside⟩, rfl⟩ := extract_eq_ok_iff.1 read
  have some_there : lines.extract first (last + 1) ≠ [] := by
    rw [← List.length_pos_iff, length_extract inside]
    omega
  rw [inked_toLines, segments_unlines some_there fun l mem => unbroken l (mem_of_mem_extract mem),
    ← inked_append, take_append_extract (Nat.le_succ_of_le forward), ← inked_append,
    List.take_append_drop]

end Text

namespace Sidecar

open Text

/-! ## The values of a line -/

theorem quotedValue_subset (cs : List Char) :
    (quotedValue cs).1 ⊆ cs ∧ (quotedValue cs).2 ⊆ cs := by
  fun_induction quotedValue cs <;> grind

theorem readValue_subset (cs : List Char) :
    (readValue cs).2.1 ⊆ cs ∧ (readValue cs).2.2 ⊆ cs := by
  fun_cases readValue cs with
  | case1 rest =>
    obtain ⟨value, behind⟩ := quotedValue_subset rest
    exact ⟨List.subset_cons_of_subset _ value, List.subset_cons_of_subset _ behind⟩
  | case2 => exact ⟨(List.takeWhile_sublist _).subset, (List.dropWhile_sublist _).subset⟩

theorem subset_of_behind_key {cs rest : List Char} {c : Char}
    (found : cs.dropWhile isKeyChar = c :: rest) : rest ⊆ cs := by
  have behind : cs.dropWhile isKeyChar ⊆ cs := (List.dropWhile_sublist _).subset
  rw [found] at behind
  exact List.subset_of_cons_subset behind

/-- A value is made of characters of its line. -/
theorem value_subset_of_mem_tokens {cs : List Char} {t : Token} (mem : t ∈ tokens cs) :
    t.value.toList ⊆ cs := by
  fun_induction tokens cs with
  | case1 => cases mem
  | case2 cs rest found ih =>
    obtain ⟨value, behind⟩ := readValue_subset rest
    rcases List.mem_cons.1 mem with rfl | mem
    · simpa using List.Subset.trans value (subset_of_behind_key found)
    · exact List.Subset.trans (ih mem) (List.Subset.trans behind (subset_of_behind_key found))
  | case3 cs c rest found other ih => exact List.Subset.trans (ih mem) (subset_of_behind_key found)

section

variable {line : String} {m : Metadata}

theorem isBlank_of_parse (notes : parse line = some m) : isBlank line = false := by
  rw [Bool.eq_false_iff]
  intro blank
  have none_left : stripBoth isSpace line.toList = [] :=
    (stripBoth_eq_nil_iff _ _).2 (List.all_eq_true.1 blank)
  simp [parse, afterMarker?, none_left, marker] at notes

theorem afterMarker?_subset {rest : List Char} (behind : afterMarker? line = some rest) :
    rest ⊆ line.toList := by
  obtain ⟨-, rfl⟩ : _ ∧ (stripBoth isSpace line.toList).drop marker.toList.length = rest := by
    simpa [afterMarker?] using behind
  intro c mem
  have trimmed := List.mem_of_mem_drop mem
  rw [stripBoth, List.mem_reverse] at trimmed
  have front := (List.dropWhile_sublist _).subset trimmed
  exact (List.dropWhile_sublist _).subset (List.mem_reverse.1 front)

/-- What is read from a line can be written in one line. -/
theorem values_of_parse (notes : parse line = some m) (unbroken : Unbroken line) {f : Field}
    {value : String} (note : m.get f = some value) : value ≠ "" ∧ Unbroken value := by
  obtain ⟨rest, behind, rfl⟩ := Option.map_eq_some_iff.1 notes
  rw [Metadata.get_ofTokens_eq, Option.map_eq_some_iff] at note
  obtain ⟨t, decides, rfl⟩ := note
  obtain ⟨mem, sets⟩ := List.mem_filter.1 (List.mem_of_getLast? decides)
  refine ⟨(Token.sets_iff.1 sets).2.1, fun feed => unbroken ?_⟩
  exact afterMarker?_subset behind (value_subset_of_mem_tokens mem feed)

end

/-! ## Lines taken off, and lines put in front -/

section

variable {text body note : String} {m : Metadata} {style : Style}

theorem segments_eq_of_firstLine {first : String} {rest : Option String}
    (h : firstLine text = (first, rest)) :
    segments text = first :: (rest.map segments).getD [] := by
  obtain ⟨unbroken, text_eq⟩ := firstLine_spec text
  rw [h] at unbroken text_eq
  rw [text_eq]
  cases rest with
  | none => simp [segments_of_unbroken unbroken]
  | some rest =>
    rw [Option.map_some, Option.getD_some, ← String.append_assoc, segments_append_feed,
      segments_of_unbroken unbroken]
    rfl

theorem inked_dropBlankLine (text : String) :
    inked (segments (dropBlankLine text)) = inked (segments text) := by
  cases h : firstLine text with
  | mk first rest =>
    cases blank : isBlank first with
    | false => rw [(dropBlankLine_of_text h blank).1]
    | true =>
      rw [segments_eq_of_firstLine h, inked_cons_of_blank blank]
      cases rest <;> simp only [dropBlankLine, h, blank, if_true] <;> rfl

/-- A sidecar line is a line with text, and all others are found in the body. -/
theorem inked_split {excerpt first : String} {rest : Option String}
    (h : firstLine excerpt = (first, rest)) (notes : parse first = some m) :
    inked (segments excerpt) = first :: inked (segments (split excerpt).2) := by
  rw [segments_eq_of_firstLine h, inked_cons_of_text (isBlank_of_parse notes),
    split_of_some h notes]
  cases rest with
  | none => rfl
  | some rest => simp [inked_dropBlankLine]

/-- Notes whose values are lines come in front of a body as one line. -/
theorem inked_attach (written : format m = some note)
    (indent : ∀ c ∈ style.indent.toList, isIndentChar c = true)
    (values : ∀ f value, m.get f = some value → value ≠ "" ∧ Unbroken value) :
    ∃ line n, inked (segments (attach body m style)) = line :: inked (segments body) ∧
      parse line = some n ∧ n.same m = true ∧ Style.ofLine line = style := by
  obtain ⟨n, notes, same⟩ := exists_parse_styled written indent fun f empty =>
    (values f "" empty).1 rfl
  have unbroken := (unbroken_styled_iff written indent).2 fun f value note =>
    (values f value note).2
  refine ⟨_, n, ?_, notes, same, ofLine_format written indent⟩
  have first : firstLine (attach body m style) = (_, if body.isEmpty then none else some body) :=
    (firstLine_attach_eq_iff written).2 ⟨rfl, unbroken⟩
  rw [segments_eq_of_firstLine first, inked_cons_of_text (isBlank_of_parse notes)]
  cases empty : body.isEmpty with
  | true =>
    rw [String.isEmpty_iff.1 empty]
    rfl
  | false => rfl

end

end Sidecar

namespace Session

open Text

/-- A session is opened with an excerpt and saved with its own body and notes. When the excerpt does
not begin with a sidecar line, it is what is written. Otherwise the lines behind the first one that
are not blank are written as they are and in their order. In front of them stands the sidecar line,
written anew in its old style, from which the same notes are read; without any note there is none.
So it is in the script as well, where all lines around the excerpt stay. -/
theorem text_keeps_lines (node excerpt : String) (entry : Entry) (readOnly : Bool)
    (viewport : Viewport) (override : Bool) (focus : Option String) :
    let s := ofExcerpt node entry excerpt readOnly viewport
    let text := s.text ⟨s.body, s.metadata, override, focus⟩
    let first := (Sidecar.firstLine excerpt).1
    (Sidecar.parse first = none → text = excerpt) ∧
    (∀ m, Sidecar.parse first = some m →
      ∃ rest, inked (toLines excerpt) = first :: rest ∧
        (m.isEmpty = true → inked (toLines text) = rest) ∧
        (m.isEmpty = false → ∃ line n, inked (toLines text) = line :: rest ∧
          Sidecar.parse line = some n ∧ n.same m = true ∧
          Sidecar.Style.ofLine line = Sidecar.Style.ofLine first)) ∧
    ∀ lines a b, (∀ l ∈ lines, Unbroken l) → extract lines a b = .ok excerpt →
      ∃ lines' written, splice lines a b text = .ok (lines', written) ∧
        inked lines = inked (lines.take a) ++ inked (toLines excerpt) ++
          inked (lines.drop (b + 1)) ∧
        inked lines' = inked (lines.take a) ++ inked (toLines text) ++
          inked (lines.drop (b + 1)) := by
  intro s text first
  have split_first : Sidecar.firstLine excerpt = (first, (Sidecar.firstLine excerpt).2) := rfl
  have text_eq : text = Sidecar.attach (Sidecar.split excerpt).2 (Sidecar.split excerpt).1
      (s.sidecarStyle (s.indented s.body)) := by
    have indented : s.indented s.body = (Sidecar.split excerpt).2 := indented_ofExcerpt
    have notes : s.metadata = (Sidecar.split excerpt).1 := metadata_ofExcerpt
    simp only [text, Session.text, indented, notes]
  refine ⟨fun other => ?_, fun m notes => ?_, fun lines a b unbroken read => ?_⟩
  · rw [text_eq, Sidecar.split_of_none split_first other]
    rfl
  · have style : s.sidecarStyle (s.indented s.body) = Sidecar.Style.ofLine first := by
      have sidecar : s.sidecar = Sidecar.style? excerpt := sidecar_ofExcerpt
      rw [sidecarStyle, sidecar, Sidecar.style?_of_some split_first notes, Option.getD_some]
    have split_notes : (Sidecar.split excerpt).1 = m := by
      rw [Sidecar.split_of_some split_first notes]
    rw [style, split_notes] at text_eq
    refine ⟨_, (inked_toLines excerpt).trans (Sidecar.inked_split split_first notes), ?_, ?_⟩
    · intro none_set
      rw [inked_toLines, text_eq, Sidecar.attach, Sidecar.format, if_pos none_set]
    · intro some_set
      obtain ⟨note, written⟩ : ∃ note, Sidecar.format m = some note :=
        ⟨_, by rw [Sidecar.format, some_set]; rfl⟩
      have unbroken : Unbroken first := (Sidecar.firstLine_spec excerpt).1
      rw [inked_toLines, text_eq]
      exact Sidecar.inked_attach written (fun c => isIndentChar_of_mem_leadingIndent)
        fun f value => Sidecar.values_of_parse notes unbroken
  · obtain ⟨inside, -⟩ := extract_eq_ok_iff.1 read
    refine ⟨_, _, splice_eq_ok_iff.2 ⟨inside, rfl, rfl⟩, inked_of_extract unbroken read, ?_⟩
    rw [inked_append, inked_append]

/-- A sidecar line with a bare word, a key twice, a status that is none and a carriage return, a
blank line behind it, and lines that share no indent. -/
theorem text_keeps_lines_uneven :
    let first := "\t# @node  draft tag=a status=Soon tag=\"x y\" \r"
    let excerpt := unlines [first, " \r", "    one", "", "  two", "\tthree"]
    let lines := ["label a:", first, " \r", "    one", "", "  two", "\tthree", "  end"]
    let s := ofExcerpt "a-0" ⟨"a-0", .action, some "a", some "a", 1, 6⟩ excerpt false {}
    (Sidecar.firstLine excerpt).1 = first ∧
      Sidecar.parse first = some { tag := some "x y", quoted := ["tag"] } ∧
      s.indent.error.isSome = true ∧ extract lines 1 6 = .ok excerpt ∧
      ∃ lines' written, splice lines 1 6 (s.text ⟨s.body, s.metadata, true, none⟩) =
          .ok (lines', written) ∧
        ∃ line n, inked lines' = ["label a:", line, "    one", "  two", "\tthree", "  end"] ∧
          Sidecar.parse line = some n ∧ n.tag = some "x y" := by
  intro first excerpt lines s
  have first_eq : (Sidecar.firstLine excerpt).1 = first := by decide +kernel
  have notes : Sidecar.parse first = some { tag := some "x y", quoted := ["tag"] } := by
    decide +kernel
  have read : extract lines 1 6 = .ok excerpt := by decide +kernel
  have unbroken : ∀ l ∈ lines, Unbroken l := by
    unfold Unbroken
    decide +kernel
  obtain ⟨-, kept, whole⟩ := text_keeps_lines "a-0" excerpt
    ⟨"a-0", .action, some "a", some "a", 1, 6⟩ false {} true none
  rw [first_eq] at kept
  obtain ⟨rest, opened, -, rewritten⟩ := kept _ notes
  obtain ⟨line, n, saved, notes', same, -⟩ := rewritten rfl
  obtain ⟨lines', written, done, -, script⟩ := whole lines 1 6 unbroken read
  have rest_eq : rest = ["    one", "  two", "\tthree"] := by
    have opened' : inked (toLines excerpt) = first :: ["    one", "  two", "\tthree"] := by
      decide +kernel
    exact (List.cons.inj (opened.symm.trans opened')).2
  rw [saved, rest_eq] at script
  have error : s.indent.error.isSome = true := by decide +kernel
  exact ⟨first_eq, notes, error, read, lines', written, done, line, n, script, notes',
    Sidecar.Metadata.same_iff.1 same .tag⟩

end Session

end StoryScript
