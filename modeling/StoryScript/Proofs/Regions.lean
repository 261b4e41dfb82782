import StoryScript.Proofs.EditOrder
import StoryScript.Proofs.LineNumbers

/-!
# What a write leaves alone

A write gives some lines of one script for the lines of a text. All else stays: the lines in front,
the lines behind, which only move, the mark for the final line feed, and the other scripts. What was
written is read back from where the outcome says it is, and the lines that gave way can be put back
there, unless the last of them is empty.

## Main definitions

* `Text.Framed` — lines that differ between two places only.
* `Store.Rewritten` — what is stored after a write, told by its outcome.

## Main statements

* `Text.Edit.framed`, `Text.Edit.extract_apply` — what an edit leaves, and what it puts there.
* `Text.Edit.apply_back_iff` — which edit takes another one back.
* `Store.rewritten_edited` — what every edit of a stored script leaves.
* `Store.writeRange_back` — the lines that gave way are put back.
* `Store.writes_framed` — all of this for both kinds of write, after any history.
-/

namespace StoryScript

namespace Text

variable {lines : List String} {first last : Nat}

/-- The lines in front of `first` stay where they are, those from `stop` on move by `delta`, and so
does the end. -/
structure Framed (lines lines' : List String) (first stop : Nat) (delta : Int) : Prop where
  front : ∀ k < first, lines'[k]? = lines[k]?
  behind : ∀ k, stop ≤ k → ∃ k' : Nat, (k' : Int) = k + delta ∧ lines'[k']? = lines[k]?
  length : (lines'.length : Int) = lines.length + delta

/-- A text is its lines put together, with a line feed behind them if it ends with one. -/
theorem unlines_toLines (text : String) :
    unlines (toLines text) ++ (if text.toList.getLast? = some '\n' then "\n" else "") = text := by
  have whole := Document.toString_ofString text
  rw [Document.toString, Document.finalNewline_ofString] at whole
  simp only [beq_iff_eq] at whole
  exact whole

theorem toLines_eq_nil_iff {text : String} : toLines text = [] ↔ text = "" := by
  constructor
  · intro empty
    rw [toLines_eq] at empty
    split at empty
    · next last =>
      obtain ⟨init, split⟩ := List.getLast?_eq_some_iff.1 last
      rw [split, List.dropLast_concat] at empty
      rw [← unlines_segments text, split, empty]
      rfl
    · exact absurd empty (segments_ne_nil text)
  · rintro rfl
    rfl

/-- Replacing anything but a range of the script is refused. -/
theorem splice_outside (outside : ¬ (first ≤ last ∧ last < lines.length)) (text : String) :
    splice lines first last text = .error (.range first last lines.length) := by
  rw [splice, checkRange, if_neg outside]
  rfl

/-- Lines are got back from their text, but for an empty last one. -/
theorem toLines_unlines_eq_iff (ne : lines ≠ []) (unbroken : ∀ l ∈ lines, Unbroken l) :
    toLines (unlines lines) = lines ↔ lines.getLast? ≠ some "" := by
  rw [toLines_unlines ne unbroken]
  split
  · next last =>
    obtain ⟨init, rfl⟩ := List.getLast?_eq_some_iff.1 last
    simp
  · next last => simp [last]

/-- A range ends with the last of its lines. -/
theorem getLast?_extract (forward : first ≤ last) (inside : last < lines.length) :
    (lines.extract first (last + 1)).getLast? = lines[last]? := by
  have present := List.getElem?_eq_getElem inside
  rw [extract_eq_concat forward present, List.getLast?_concat, present]

namespace Edit

variable {e : Edit}

theorem stop_replacing (forward : first ≤ last) (text : String) :
    (replacing first last text).first + (replacing first last text).removed = last + 1 := by
  simp only [replacing]
  omega

theorem fits_replacing (forward : first ≤ last) (inside : last < lines.length) (text : String) :
    (replacing first last text).Fits lines := by
  rw [Fits, stop_replacing forward]
  exact inside

/-- An edit leaves the lines around it. -/
theorem framed (fits : e.Fits lines) :
    Framed lines (e.apply lines) e.first (e.first + e.removed) e.written.lineDelta where
  front k before := by
    rw [getElem?_apply fits, origin, if_pos before]
    rfl
  behind k behind := by
    have no_new : e.new[k - e.removed + e.new.length - e.first]? = none :=
      List.getElem?_eq_none (by omega)
    have back : k - e.removed + e.new.length - e.new.length + e.removed = k := by omega
    refine ⟨k - e.removed + e.new.length, ?_, ?_⟩
    · simp only [written]
      omega
    · rw [getElem?_apply fits, origin, if_neg (by omega), no_new, back]
      rfl
  length := by
    have size := length_apply fits
    simp only [written]
    omega

theorem lastLine?_written :
    e.written.lastLine? = if e.new = [] then none else some (e.first + e.new.length - 1) := by
  simp [Written.lastLine?, written]

/-- The new lines stand where the edit was made. -/
theorem extract_apply (fits : e.Fits lines) (some_new : e.new ≠ []) :
    extract (e.apply lines) e.first (e.first + e.new.length - 1) = .ok (unlines e.new) := by
  have count : 0 < e.new.length := List.length_pos_iff.2 some_new
  obtain ⟨front, out, back, rfl, front_eq, out_eq⟩ := exists_parts _ _ _ fits
  rw [apply_parts front_eq out_eq, extract_eq_ok_iff]
  refine ⟨⟨by omega, ?_⟩, ?_⟩
  · simp only [List.length_append]
    omega
  · have stop : e.first + e.new.length - 1 + 1 - e.first = e.new.length := by omega
    rw [List.extract_eq_take_drop, stop, List.append_assoc, List.drop_left' front_eq,
      List.take_left]

/-- The lines of an edit are replaced in turn. -/
theorem replacing_new (some_new : e.new ≠ []) (text : String) :
    replacing e.first (e.first + e.new.length - 1) text =
      ⟨e.first, e.new.length, toLines text⟩ := by
  have count : 0 < e.new.length := List.length_pos_iff.2 some_new
  have removed : e.first + e.new.length - 1 + 1 - e.first = e.new.length := by omega
  rw [replacing, removed]

/-- To take an edit back is to put the lines in again that it took out. -/
theorem apply_back_iff (fits : e.Fits lines) (old : List String) :
    (Edit.mk e.first e.new.length old).apply (e.apply lines) = lines ↔
      old = lines.extract e.first (e.first + e.removed) := by
  obtain ⟨front, out, back, rfl, front_eq, out_eq⟩ := exists_parts _ _ _ fits
  have range : (front ++ out ++ back).extract e.first (e.first + e.removed) = out := by
    rw [List.extract_eq_take_drop, Nat.add_sub_cancel_left, List.append_assoc,
      List.drop_left' front_eq, List.take_left' out_eq]
  have again : (Edit.mk e.first e.new.length old).apply (front ++ e.new ++ back) =
      front ++ old ++ back :=
    apply_parts (d := ⟨e.first, e.new.length, old⟩) front_eq rfl back
  rw [apply_parts front_eq out_eq, again, range, List.append_left_inj, List.append_right_inj]

end Edit

end Text

namespace Store

open Text (Edit)

variable {s s' : Store} {script text : String} {d : Text.Document} {e : Edit} {first last : Nat}

/-- What is stored when a text has taken the place of the lines of a script `d` from `first` on and
in front of `stop`. -/
structure Rewritten (s s' : Store) (script : String) (d : Text.Document) (first stop : Nat)
    (text : String) (w : Text.Written) : Prop where
  start : w.startLine = first
  around : ∃ d', s'.scripts.get? script = some d' ∧ d'.finalNewline = d.finalNewline ∧
    Text.Framed d.lines d'.lines first stop w.lineDelta
  others : ∀ other, other ≠ script → s'.scripts.get? other = s.scripts.get? other
  /-- The outcome names no last line just if nothing was written. -/
  emptied : w.lastLine? = none ↔ text = ""
  /-- What was written is read from where the outcome says it is, but for a final line feed. -/
  region : ∀ last, w.lastLine? = some last → ∃ t, s'.readRange script w.startLine last = .ok t ∧
    text = t ++ if text.toList.getLast? = some '\n' then "\n" else ""

/-- What is stored after an edit of the lines of a script `d`. -/
def edited (s : Store) (script : String) (d : Text.Document) (e : Edit) : Store :=
  ⟨s.scripts.put script { d with lines := e.apply d.lines }⟩

/-- An edit of a stored script keeps what is around it, whatever text it puts in. -/
theorem rewritten_edited (fits : e.Fits d.lines) (new : e.new = Text.toLines text) :
    s.Rewritten (s.edited script d e) script d e.first (e.first + e.removed) text e.written where
  start := rfl
  around := ⟨_, Table.get?_put_self .., rfl, Edit.framed fits⟩
  others other ne := by rw [edited, Table.get?_put, if_neg ne]
  emptied := by
    rw [Edit.lastLine?_written, new, ← Text.toLines_eq_nil_iff]
    simp
  region last told := by
    rw [Edit.lastLine?_written] at told
    split at told
    · cases told
    · next some_new =>
      cases told
      refine ⟨Text.unlines e.new, ?_, ?_⟩
      · exact readRange_eq_ok_iff.2 ⟨_, Table.get?_put_self .., Edit.extract_apply fits some_new⟩
      · rw [new, Text.unlines_toLines]

section

variable (found : s.scripts.get? script = some d)

include found

theorem edit_of_found (f : List String → Except Text.LineError (List String × Text.Written)) :
    s.edit script f = match f d.lines with
      | .ok (lines, w) => .ok (⟨s.scripts.put script { d with lines }⟩, w)
      | .error err => .error (.lines err) := by
  unfold edit document
  rw [found]
  cases edited : f d.lines <;> simp [bind, Except.bind, pure, Except.pure, mapError_ok,
    mapError_error, edited]

/-- Replacing a range of a script in one equation. -/
theorem writeRange_of_found (first last : Nat) (text : String) :
    s.writeRange script first last text =
      if first ≤ last ∧ last < d.lines.length then
        .ok (s.edited script d (.replacing first last text),
          (Edit.replacing first last text).written)
      else .error (.lines (.range first last d.lines.length)) := by
  rw [writeRange, edit_of_found found]
  by_cases inside : first ≤ last ∧ last < d.lines.length
  · rw [if_pos inside, Text.splice_inside inside.1 inside.2]
    rfl
  · rw [if_neg inside, Text.splice_outside inside]

/-- Inserting lines into a script in one equation. -/
theorem insertLines_of_found (line : Nat) (text : String) :
    s.insertLines script line text =
      if line ≤ d.lines.length then
        .ok (s.edited script d (.inserting line text), (Edit.inserting line text).written)
      else .error (.lines (.insertion line d.lines.length)) := by
  rw [insertLines, edit_of_found found]
  by_cases inside : line ≤ d.lines.length
  · rw [if_pos inside, Text.insertAt_inside inside]
    rfl
  · rw [if_neg inside, Text.insertAt, if_neg inside]

/-- A second edit of a script restores all that is stored if it restores the lines. -/
theorem edited_edited_iff {back : Edit} {lines : List String} :
    (∀ name, ((s.edited script d e).edited script { d with lines } back).scripts.get? name =
      s.scripts.get? name) ↔ back.apply lines = d.lines := by
  simp only [edited, Table.get?_put]
  constructor
  · intro all
    have here := all script
    rw [if_pos rfl, found, Option.some.injEq] at here
    exact congrArg Text.Document.lines here
  · intro same name
    by_cases here : name = script
    · rw [if_pos here, here, found, same]
    · rw [if_neg here, if_neg here]

/-- The lines that gave way to some text are read before and written back over the new ones. All is
stored then as it was, unless the last of them is empty. -/
theorem writeRange_back (unbroken : s.Unbroken) (forward : first ≤ last)
    (inside : last < d.lines.length) (some_text : text ≠ "") :
    let e := Edit.replacing first last text
    ∃ old stop s'' w', s.readRange script first last = .ok old ∧
      e.written.lastLine? = some stop ∧
      (s.edited script d e).writeRange script e.written.startLine stop old = .ok (s'', w') ∧
      ((∀ name, s''.scripts.get? name = s.scripts.get? name) ↔ d.lines[last]? ≠ some "") := by
  intro e
  let range := d.lines.extract first (last + 1)
  let stop := e.first + e.new.length - 1
  have some_new : e.new ≠ [] := mt Text.toLines_eq_nil_iff.1 some_text
  have fits : e.Fits d.lines := Edit.fits_replacing forward inside text
  have read : s.readRange script first last = .ok (Text.unlines range) :=
    readRange_eq_ok_iff.2 ⟨d, found, Text.extract_eq_ok_iff.2 ⟨⟨forward, inside⟩, rfl⟩⟩
  have told : e.written.lastLine? = some stop := by rw [Edit.lastLine?_written, if_neg some_new]
  have there : e.first ≤ stop ∧ stop < (e.apply d.lines).length :=
    (Text.extract_eq_ok_iff.1 (Edit.extract_apply fits some_new)).1
  have found' : (s.edited script d e).scripts.get? script =
      some { d with lines := e.apply d.lines } :=
    Table.get?_put_self ..
  have write := writeRange_of_found found' e.first stop (Text.unlines range)
  rw [if_pos there] at write
  refine ⟨Text.unlines range, stop, _, _, read, told, write, ?_⟩
  have range_ne : range ≠ [] := by
    rw [← List.length_pos_iff, Text.length_extract inside]
    omega
  have unbroken_range : ∀ l ∈ range, Text.Unbroken l :=
    fun l mem => unbroken script d found l (Text.mem_of_mem_extract mem)
  rw [edited_edited_iff found, Edit.replacing_new some_new, Edit.apply_back_iff fits,
    Edit.stop_replacing forward]
  exact (Text.toLines_unlines_eq_iff range_ne unbroken_range).trans
    (by rw [Text.getLast?_extract forward inside])

end

/-- Let scripts be put, written to and inserted into in any way, and let one be there at the end.
A text can take the place of just the ranges that lie in it, and can be inserted in front of just
its lines and at its end; anything else is refused and changes nothing. What the text leaves of the
script is told by the outcome: the lines in front, the lines behind, which move by the line delta,
the final line feed and the other scripts stay, and the text is read from where it now stands. When
neither the text nor the last line of a range is empty, writing the lines of the range back over the
text restores all that is stored; when that line is empty, it does not. -/
theorem writes_framed (calls : List StoreCall) (script : String) (d : Text.Document)
    (found : (({} : Store).afterAll calls).scripts.get? script = some d) (text : String) :
    let s := ({} : Store).afterAll calls
    (∀ first last,
      ((∃ s' w, s.writeRange script first last text = .ok (s', w)) ↔
        first ≤ last ∧ last < d.lines.length) ∧
      (∀ err, s.writeRange script first last text = .error err →
        err = .lines (.range first last d.lines.length) ∧
          s.after (.write script first last text) = s) ∧
      ∀ s' w, s.writeRange script first last text = .ok (s', w) →
        s.Rewritten s' script d first (last + 1) text w ∧
        (text ≠ "" → ∃ old stop s'' w', s.readRange script first last = .ok old ∧
          w.lastLine? = some stop ∧ s'.writeRange script w.startLine stop old = .ok (s'', w') ∧
          ((∀ name, s''.scripts.get? name = s.scripts.get? name) ↔
            d.lines[last]? ≠ some ""))) ∧
      ∀ line,
        ((∃ s' w, s.insertLines script line text = .ok (s', w)) ↔ line ≤ d.lines.length) ∧
        (∀ err, s.insertLines script line text = .error err →
          err = .lines (.insertion line d.lines.length) ∧
            s.after (.insert script line text) = s) ∧
        ∀ s' w, s.insertLines script line text = .ok (s', w) →
          s.Rewritten s' script d line line text w := by
  intro s
  have unbroken : s.Unbroken := unbroken_afterAll calls
  have found : s.scripts.get? script = some d := found
  refine ⟨fun first last => ?_, fun line => ?_⟩
  · simp only [after, writeRange_of_found found]
    split
    · next inside =>
      let e := Edit.replacing first last text
      have fits : e.Fits d.lines := Edit.fits_replacing inside.1 inside.2 text
      have framed : s.Rewritten (s.edited script d e) script d first (e.first + e.removed) text
          e.written :=
        rewritten_edited fits rfl
      rw [Edit.stop_replacing inside.1] at framed
      refine ⟨by simpa using inside, by simp, ?_⟩
      rintro s' w ⟨⟩
      exact ⟨framed, writeRange_back found unbroken inside.1 inside.2⟩
    · next outside =>
      refine ⟨by simpa using outside, ?_, by simp⟩
      rintro err ⟨⟩
      exact ⟨rfl, rfl⟩
  · simp only [after, insertLines_of_found found]
    split
    · next inside =>
      refine ⟨by simpa using inside, by simp, ?_⟩
      rintro s' w ⟨⟩
      exact rewritten_edited (e := .inserting line text) inside rfl
    · next outside =>
      refine ⟨by simpa using outside, ?_, by simp⟩
      rintro err ⟨⟩
      exact ⟨rfl, rfl⟩

/-- A line gives way to four, the first and the last of them empty, in front of an empty line and
beside another script. The text is written with one more line feed at its end. Then the line is
put back. -/
theorem writes_framed_spread :
    let s := ({} : Store).afterAll [.put "o" "x", .put "s" "label a:\r\n    one\n\n    two\n"]
    let d : Text.Document := ⟨["label a:\r", "    one", "", "    two"], true⟩
    let text := "\n    new\n    newer\r\n\n"
    s.scripts.get? "s" = some d ∧ ∃ s' w, s.writeRange "s" 1 1 text = .ok (s', w) ∧
      w = ⟨1, 4, 3⟩ ∧ s.Rewritten s' "s" d 1 2 text w ∧
      ∃ old stop s'' w', s.readRange "s" 1 1 = .ok old ∧ w.lastLine? = some stop ∧
        s'.writeRange "s" w.startLine stop old = .ok (s'', w') ∧
        ∀ name, s''.scripts.get? name = s.scripts.get? name := by
  intro s d text
  have found : s.scripts.get? "s" = some d := by decide +kernel
  have told : (s.writeRange "s" 1 1 text).toOption.map (·.2) = some ⟨1, 4, 3⟩ := by decide +kernel
  obtain ⟨inside, -, done⟩ := (writes_framed _ "s" d found text).1 1 1
  obtain ⟨s', w, write⟩ := inside.2 (by decide)
  obtain ⟨framed, back⟩ := done s' w write
  obtain ⟨old, stop, s'', w', read, last, again, restored⟩ := back (by decide)
  rw [write] at told
  refine ⟨found, s', w, write, Option.some.inj told, framed, old, stop, s'', w', read, last, again,
    ?_⟩
  exact restored.2 (by decide)

end Store

end StoryScript
