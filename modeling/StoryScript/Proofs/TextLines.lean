import StoryScript.Command.Run
import StoryScript.Proofs.Exits
import StoryScript.Proofs.LineNumbers

/-!
# A text and its lines

Taken apart, a text gives lines and the mark for its final line feed; put together again, these give
the text. The other way round a text stands for several lists of lines with a mark, of which one is
got back: the plain one, where neither an empty last line is missing from the text nor a line feed
stands in it without a line.

The number that is shown with an opened script is taken from the lines without their endings, to
which a carriage return in front of the line feed belongs. It is the same.

## Main statements

* `Text.length_plainLines` — a text has as many lines with their carriage returns as without.
* `Text.Document.eq_of_toString_eq` — lines and text determine the mark.
* `Text.Document.ofString_toString_iff` — which scripts are got back from their text.
* `openEditor_view` — what an opened script shows of its lines.
* `Text.lines_faithful` — a text against its lines, either way.
-/

namespace StoryScript

namespace Text

/-- A text has as many lines when a carriage return in front of a line feed belongs to the ending as
when it does not. -/
theorem length_plainLines (s : String) : (plainLines s).length = (toLines s).length := by
  have pieces_ne : s.toList.splitOn '\n' ≠ [] := by simp
  obtain ⟨init, last, pieces⟩ := (List.eq_nil_or_concat _).resolve_left pieces_ne
  have last_empty : String.ofList last = "" ↔ last = [] := by simp [← String.toList_inj]
  rw [toLines_eq, segments, plainLines, pieces]
  by_cases empty : last = []
  · simp [empty]
  · simp [empty, last_empty]

namespace Document

variable {d d' : Document}

/-- Of two scripts with the same lines and the same text, both end with a line feed or neither. -/
theorem eq_of_toString_eq (lines : d.lines = d'.lines) (text : d.toString = d'.toString) :
    d = d' := by
  obtain ⟨ls, newline⟩ := d
  obtain ⟨ls', newline'⟩ := d'
  obtain rfl : ls = ls' := lines
  rw [toString, toString, ← String.toList_inj, String.toList_append, String.toList_append] at text
  have ends := List.append_cancel_left text
  cases newline <;> cases newline' <;> simp_all

/-- A script is got back from its text when its lines can be lines, and none is too much or too few
for the text. -/
theorem ofString_toString_iff :
    ofString d.toString = d ↔ (∀ l ∈ d.lines, Unbroken l) ∧ d.Plain := by
  constructor
  · intro back
    have unbroken : ∀ l ∈ d.lines, Unbroken l := by
      rw [← back]
      exact fun l => unbroken_of_mem_toLines
    exact ⟨unbroken, (plain_iff unbroken).2 (congrArg lines back).symm⟩
  · rintro ⟨unbroken, plain⟩
    exact eq_of_toString_eq ((plain_iff unbroken).1 plain).symm (toString_ofString _)

/-- The plain scripts are those that have lines, a final line feed or text in the last line, and the
one that has neither lines nor a final line feed. -/
theorem plain_iff_lines : d.Plain ↔
    (d.lines ≠ [] ∧ (d.finalNewline = true ∨ d.lines.getLast? ≠ some "")) ∨
      (d.lines = [] ∧ d.finalNewline = false) := by
  unfold Plain
  cases d.finalNewline <;> by_cases empty : d.lines = [] <;> simp [empty]

end Document

end Text

/-- A view has the number of lines that the parser counted. -/
theorem Editor.lineCount_of_viewOf {e : Editor} {source : String} {p : Parsed} {v : View}
    (drawn : e.viewOf source p = .ok v) : v.lineCount = p.lineCount := by
  unfold viewOf at drawn
  split at drawn
  · cases drawn
  · cases drawn
    rfl

/-- An opened script holds the lines of its text, with the number of lines without their endings. -/
theorem openEditor_view {config : Config} {tree : Tree} {source : String} {e : Editor} {w : Shared}
    (opened : openEditor config tree source = .ok (e, w)) :
    ∃ v, e.stage.view? = some v ∧ v.lines = Text.toLines source ∧
      v.lineCount = (plainLines source).length := by
  unfold openEditor at opened
  dsimp only at opened
  split at opened
  · cases opened
  next g e' w' loaded =>
  cases opened
  simp only [Editor.load] at loaded
  split at loaded
  · cases loaded
  next v e' done =>
  cases loaded
  obtain ⟨⟨text, parsed, read, parse, drawn⟩, -⟩ := Editor.refresh_ok done
  -- what was read is the text that was put, and the parser gave what it always gives
  obtain ⟨d, found, rfl⟩ := Store.readAll_eq_ok_iff.1 read
  rw [Store.put, Table.get?_put_self, Option.some.injEq] at found
  subst found
  cases parse
  obtain ⟨-, -, -, lines⟩ := Editor.viewOf_ok drawn
  refine ⟨v, rfl, ?_, Editor.lineCount_of_viewOf drawn⟩
  rw [lines, Text.Document.toString_ofString]

namespace Text

/-- A text is got back from its lines and the mark for a final line feed. None of them holds a line
feed, and there are as many as there are without carriage returns; when the text is opened as a
script, these lines are held and that number is shown. The other way round, lines and a mark are got
back from their text when no line holds a line feed, and either there are lines, with the mark or
with text in the last one, or there is neither a line nor the mark; and in no other case. -/
theorem lines_faithful :
    (∀ text : String, (Document.ofString text).toString = text ∧
      (∀ l ∈ (Document.ofString text).lines, Unbroken l) ∧
      (Document.ofString text).lines.length = (plainLines text).length ∧
      ∀ config tree e w, openEditor config tree text = .ok (e, w) → ∃ v,
        e.stage.view? = some v ∧ v.lines = (Document.ofString text).lines ∧
          v.lineCount = v.lines.length) ∧
      ∀ (lines : List String) (newline : Bool),
        Document.ofString (Document.toString ⟨lines, newline⟩) = ⟨lines, newline⟩ ↔
          (∀ l ∈ lines, Unbroken l) ∧
            ((lines ≠ [] ∧ (newline = true ∨ lines.getLast? ≠ some "")) ∨
              (lines = [] ∧ newline = false)) := by
  refine ⟨fun text => ⟨?_, ?_, ?_, ?_⟩, fun lines newline => ?_⟩
  · exact Document.toString_ofString text
  · exact fun l => unbroken_of_mem_toLines
  · exact (length_plainLines text).symm
  · intro config tree e w opened
    obtain ⟨v, held, lines, count⟩ := openEditor_view opened
    refine ⟨v, held, lines, ?_⟩
    rw [count, lines, length_plainLines]
  · rw [Document.ofString_toString_iff, Document.plain_iff_lines]

/-- Carriage returns, a line feed alone, several at the end, and an empty last line that is lost. -/
example :
    Document.ofString "a\r\n\r\n\n" = ⟨["a\r", "\r", ""], true⟩ ∧
      plainLines "a\r\n\r\n\n" = ["a", "", ""] ∧
      Document.ofString "\n" = ⟨[""], true⟩ ∧ plainLines "\n" = [""] ∧
      Document.ofString (Document.toString ⟨["a", ""], false⟩) = ⟨["a"], true⟩ :=
  ⟨rfl, rfl, rfl, rfl, rfl⟩

end Text

end StoryScript
