import StoryScript.Proofs.Rereading

/-!
# The line that notes take

The notes of a statement are written as a line in front of its body. Quotes and backslashes keep
white space together, so that a value is read as it was, but a line feed among that white space
still ends the line: the notes are cut short there, and what follows stands in the script.

## Main statements

* `feeds_styled` — the line feeds in the line of some notes are those of their values.
* `exists_parse_styled` — a written line is read as the same notes in any style.
* `firstLine_attach_eq_iff` — the body is behind the first line when the notes are a line.
* `attach_one_line_iff` — how many lines the notes take, and when it is one that says all of them.
* `attach_spills_note` — notes that put a label into the script.
-/

namespace StoryScript.Sidecar

open Text

variable {m : Metadata} {style : Style} {body note : String}

theorem attach_of_format (written : format m = some note) : attach body m style =
    style.indent ++ note ++ (if style.crlf then "\r" else "") ++
      if body.isEmpty then "" else "\n" ++ body := by
  simp only [attach, written]
  split <;> simp [String.append_assoc]

section Written

variable (written : format m = some note)
  (indent : ∀ c ∈ style.indent.toList, isIndentChar c = true)

include written indent

/-- A written line is read as the same notes in any style. -/
theorem exists_parse_styled (texts : ∀ f, m.get f ≠ some "") :
    ∃ n, parse (style.indent ++ note ++ if style.crlf then "\r" else "") = some n ∧
      n.same m = true := by
  have ending : ∀ c ∈ (if style.crlf then "\r" else "").toList, isSpace c = true := by
    cases style.crlf with
    | true =>
      intro c mem
      obtain rfl : c = '\r' := by simpa using mem
      decide
    | false => simp
  rw [parse_spaced (fun c mem => isSpace_of_isIndentChar (indent c mem)) ending]
  exact exists_parse_of_format texts written

/-- No style adds a line feed. -/
theorem feeds_styled :
    feeds (style.indent ++ note ++ if style.crlf then "\r" else "") = feeds m.values := by
  have front : feeds style.indent = 0 := by
    rw [feeds_eq_zero_iff]
    intro mem
    exact absurd (indent _ mem) (by decide)
  have ending : feeds (if style.crlf then "\r" else "") = 0 := by
    cases style.crlf <;> decide
  rw [feeds_append, feeds_append, front, ending, feeds_format written]
  omega

theorem unbroken_styled_iff :
    Unbroken (style.indent ++ note ++ if style.crlf then "\r" else "") ↔
      ∀ f value, m.get f = some value → Unbroken value := by
  rw [← feeds_eq_zero_iff, feeds_styled written indent, feeds_eq_zero_iff, unbroken_values_iff]

end Written

/-- The body is found right behind the first line just when the line of the notes is a line. -/
theorem firstLine_attach_eq_iff (written : format m = some note) {line : String} :
    firstLine (attach body m style) = (line, if body.isEmpty then none else some body) ↔
      line = (style.indent ++ note ++ if style.crlf then "\r" else "") ∧
        Unbroken (style.indent ++ note ++ if style.crlf then "\r" else "") := by
  rw [attach_of_format written]
  generalize style.indent ++ note ++ (if style.crlf then "\r" else "") = styled
  constructor
  · intro first
    obtain ⟨unbroken, text⟩ := firstLine_spec (styled ++ if body.isEmpty then "" else "\n" ++ body)
    rw [first] at unbroken text
    have behind : ((if body.isEmpty then none else some body).map ("\n" ++ ·)).getD "" =
        if body.isEmpty then "" else "\n" ++ body := by
      split <;> rfl
    rw [behind] at text
    obtain rfl : styled = line := (String.append_left_inj _).1 text
    exact ⟨rfl, unbroken⟩
  · rintro ⟨rfl, unbroken⟩
    split
    · rw [String.append_empty, firstLine_of_unbroken unbroken]
    · rw [← String.append_assoc, firstLine_append_feed unbroken]

/-- Let some note be set, none of them to the empty text, and let the sidecar line stand behind
spaces and tabs. In front of a body the notes take one line, and one more for every line feed in
their values. So when no value holds a line feed, and only then, the first line says all of them,
in the given style, and what is behind it is the body and nothing else. -/
theorem attach_one_line_iff (some_set : m.isEmpty = false) (texts : ∀ f, m.get f ≠ some "")
    (indent : ∀ c ∈ style.indent.toList, isIndentChar c = true) (body : String) :
    let s := attach body m style
    (segments s).length =
        (if body.isEmpty then 0 else (segments body).length) + 1 + feeds m.values ∧
      ((∃ line n, firstLine s = (line, if body.isEmpty then none else some body) ∧
          parse line = some n ∧ n.same m = true ∧ Style.ofLine line = style) ↔
        ∀ f value, m.get f = some value → Unbroken value) := by
  intro s
  obtain ⟨note, written⟩ : ∃ note, format m = some note := ⟨_, by rw [format, some_set]; rfl⟩
  constructor
  · have behind : feeds (if body.isEmpty then "" else "\n" ++ body) =
        if body.isEmpty then 0 else (segments body).length := by
      split
      · rfl
      · rw [length_segments, feeds_append, show feeds "\n" = 1 by decide, Nat.add_comm]
    rw [length_segments, show s = _ from attach_of_format written, feeds_append,
      feeds_styled written indent, behind]
    omega
  · simp only [s, firstLine_attach_eq_iff written]
    rw [← unbroken_styled_iff written indent]
    constructor
    · rintro ⟨line, n, ⟨-, unbroken⟩, -⟩
      exact unbroken
    · intro unbroken
      obtain ⟨n, read, same⟩ := exists_parse_styled written indent texts
      exact ⟨_, n, ⟨rfl, unbroken⟩, read, same, ofLine_format written indent⟩

/-- A name with every delimiter and a carriage return in it, further in and with a carriage return
at the end of the line, in front of a body that begins with a line feed. -/
theorem attach_one_line_delimiters :
    let m : Metadata := { name := some "\"a\" = \\\r\u2028b", status := some .toDo }
    let style : Style := ⟨"\t ", true⟩
    let line := "\t # @node name=\"\\\"a\\\" = \\\\\r\u2028b\" status=\"To Do\"\r"
    m.isEmpty = false ∧ (∀ f, m.get f ≠ some "") ∧
      (∀ c ∈ style.indent.toList, isIndentChar c = true) ∧
      (∀ f value, m.get f = some value → Unbroken value) ∧
      attach "\nx" m style = line ++ "\n\nx" ∧
      ∃ n, parse line = some n ∧ n.same m = true ∧ Style.ofLine line = style := by
  intro m style line
  have texts : ∀ f, m.get f ≠ some "" := by
    intro f
    cases f <;> decide
  have indent : ∀ c ∈ style.indent.toList, isIndentChar c = true :=
    List.all_eq_true.1 (by decide)
  have unbroken : ∀ f value, m.get f = some value → Unbroken value := by
    intro f value note
    cases f with
    | name | status =>
      obtain rfl : _ = value := Option.some.inj note
      simp [Unbroken, Status.text]
    | author | accentColor | tag | tagColor => cases note
  have shown : attach "\nx" m style = line ++ "\n\nx" := by decide +kernel
  obtain ⟨line', n, first, read, same, of_line⟩ :=
    (attach_one_line_iff rfl texts indent "\nx").2.2 unbroken
  have first' : (firstLine (attach "\nx" m style)).1 = line := by decide +kernel
  obtain rfl : line' = line := by rw [← first', first]
  exact ⟨rfl, texts, indent, unbroken, shown, n, read, same, of_line⟩

/-- A name of three lines is kept in quotes. The line of the notes ends in the middle of it, and its
second line stands in the script as a label. -/
theorem attach_spills_note :
    let m : Metadata := { name := some "a\nlabel b:\nc" }
    m.isEmpty = false ∧ attach "    say" m = "# @node name=\"a\nlabel b:\nc\"\n    say" ∧
      segments (attach "    say" m) = ["# @node name=\"a", "label b:", "c\"", "    say"] ∧
      (parse "# @node name=\"a").map (·.same m) = some false := by
  decide +kernel

end StoryScript.Sidecar
