import StoryScript.Editing.Store
import StoryScript.Text.Lemmas

/-!
# Writing back what was read

A range of a stored script is read as its lines put together, and written by taking a text apart
into lines. The first puts no line feed at the end and the second takes one off, so a range comes
back as it was just when its last line is not empty.

## Main definitions

* `Store.Unbroken` — no stored line holds a line feed.

## Main statements

* `unbroken_put`, `unbroken_writeRange`, `unbroken_insertLines` — so it is in every store.
* `splice_extract` — the lines after a range was replaced by its own text.
* `writeRange_readRange` — what is stored after a range was written back.
* `writeRange_readRange_loses_line` — a range that does not come back as it was.
-/

namespace StoryScript

namespace Text

variable {lines : List String} {first last : Nat}

theorem length_extract {stop : Nat} (inside : stop ≤ lines.length) :
    (lines.extract first stop).length = stop - first := by
  rw [List.extract_eq_take_drop, List.length_take, List.length_drop]
  omega

theorem mem_of_mem_extract {stop : Nat} {l : String} (mem : l ∈ lines.extract first stop) :
    l ∈ lines := by
  rw [List.extract_eq_take_drop] at mem
  exact List.mem_of_mem_drop (List.mem_of_mem_take mem)

/-- A range stands right behind the lines in front of it. -/
theorem take_append_extract {stop : Nat} (forward : first ≤ stop) :
    lines.take first ++ lines.extract first stop = lines.take stop := by
  rw [List.extract_eq_take_drop, ← List.take_add, Nat.add_sub_cancel' forward]

/-- A range is its last line behind the others. -/
theorem extract_eq_concat (forward : first ≤ last) {l : String} (present : lines[last]? = some l) :
    lines.extract first (last + 1) = lines.extract first last ++ [l] := by
  have range : lines.take first ++ lines.extract first (last + 1) = lines.take (last + 1) :=
    take_append_extract (Nat.le_succ_of_le forward)
  rw [List.take_add_one, ← take_append_extract forward, present,
    List.append_assoc] at range
  exact List.append_cancel_left range

/-- What an edit leaves was there before or belongs to the new text. -/
theorem mem_or_unbroken {text l : String} {before behind : Nat}
    (h : l ∈ lines.take before ++ toLines text ++ lines.drop behind) :
    l ∈ lines ∨ Unbroken l := by
  simp only [List.mem_append] at h
  rcases h with (old | new) | old
  · exact .inl (List.mem_of_mem_take old)
  · exact .inr (unbroken_of_mem_toLines new)
  · exact .inl (List.mem_of_mem_drop old)

theorem mem_or_unbroken_of_splice {lines' : List String} {text : String} {written : Written}
    (done : splice lines first last text = .ok (lines', written)) :
    ∀ l ∈ lines', l ∈ lines ∨ Unbroken l := by
  obtain ⟨-, rfl, -⟩ := splice_eq_ok_iff.1 done
  exact fun l => mem_or_unbroken

theorem mem_or_unbroken_of_insertAt {lines' : List String} {line : Nat} {text : String}
    {written : Written} (done : insertAt lines line text = .ok (lines', written)) :
    ∀ l ∈ lines', l ∈ lines ∨ Unbroken l := by
  obtain ⟨-, rfl, -⟩ := insertAt_eq_ok_iff.1 done
  exact fun l => mem_or_unbroken

/-- When a range is replaced by its own text, the lines stay as they are, but for an empty line at
the end of the range, which is lost. -/
theorem splice_extract (unbroken : ∀ l ∈ lines, Unbroken l) (forward : first ≤ last)
    (inside : last < lines.length) :
    splice lines first last (unlines (lines.extract first (last + 1))) =
      if lines[last]? = some "" then .ok (lines.eraseIdx last, ⟨first, last - first, -1⟩)
      else .ok (lines, ⟨first, last + 1 - first, 0⟩) := by
  have present : lines[last]? = some lines[last] := List.getElem?_eq_getElem inside
  have concat := extract_eq_concat forward present
  have range_unbroken : ∀ l ∈ lines.extract first (last + 1), Unbroken l :=
    fun l mem => unbroken l (mem_of_mem_extract mem)
  have back : toLines (unlines (lines.extract first (last + 1))) =
      if lines[last] = "" then lines.extract first last else lines.extract first (last + 1) := by
    rw [toLines_unlines (by simp [concat]) range_unbroken, concat, List.getLast?_concat,
      List.dropLast_concat]
    simp only [Option.some.injEq]
  simp only [present, Option.some.injEq]
  split
  · next empty =>
    rw [if_pos empty] at back
    refine splice_eq_ok_iff.2 ⟨⟨forward, inside⟩, ?_, ?_⟩
    · rw [back, take_append_extract forward, List.eraseIdx_eq_take_drop_succ]
    · rw [back, length_extract (Nat.le_of_lt inside)]
      congr 1
      omega
  · next text =>
    rw [if_neg text] at back
    refine splice_eq_ok_iff.2 ⟨⟨forward, inside⟩, ?_, ?_⟩
    · rw [back, take_append_extract (Nat.le_succ_of_le forward), List.take_append_drop]
    · rw [back, length_extract inside]
      congr 1
      omega

end Text

namespace Store

variable {s s' : Store} {script text : String} {first last line : Nat} {written : Text.Written}

/-- No stored line holds a line feed. -/
def Unbroken (s : Store) : Prop :=
  ∀ script d, s.scripts.get? script = some d → ∀ l ∈ d.lines, Text.Unbroken l

theorem unbroken_empty : ({} : Store).Unbroken := by
  intro script d found
  simp at found

theorem unbroken_put_lines {d : Text.Document} (h : s.Unbroken)
    (unbroken : ∀ l ∈ d.lines, Text.Unbroken l) :
    (⟨s.scripts.put script d⟩ : Store).Unbroken := by
  intro name d' found
  rw [Table.get?_put] at found
  split at found
  · cases found
    exact unbroken
  · exact h name d' found

theorem unbroken_put (h : s.Unbroken) : (s.put script text).Unbroken :=
  unbroken_put_lines h fun _ mem => Text.unbroken_of_mem_toLines mem

/-- An edit that adds no line with a line feed. -/
theorem unbroken_edit {f : List String → Except Text.LineError (List String × Text.Written)}
    (h : s.Unbroken)
    (added : ∀ lines lines' written, f lines = .ok (lines', written) →
      ∀ l ∈ lines', l ∈ lines ∨ Text.Unbroken l)
    (done : s.edit script f = .ok (s', written)) : s'.Unbroken := by
  obtain ⟨d, lines, found, edited, rfl⟩ := edit_eq_ok_iff.1 done
  refine unbroken_put_lines h fun l mem => ?_
  rcases added d.lines lines written edited l mem with old | new
  · exact h script d found l old
  · exact new

theorem unbroken_writeRange (h : s.Unbroken)
    (done : s.writeRange script first last text = .ok (s', written)) : s'.Unbroken :=
  unbroken_edit h (fun _ _ _ => Text.mem_or_unbroken_of_splice) done

theorem unbroken_insertLines (h : s.Unbroken)
    (done : s.insertLines script line text = .ok (s', written)) : s'.Unbroken :=
  unbroken_edit h (fun _ _ _ => Text.mem_or_unbroken_of_insertAt) done

/-- A range can be replaced by its own text. -/
theorem writeRange_extract {d : Text.Document} (unbroken : s.Unbroken)
    (found : s.scripts.get? script = some d) (forward : first ≤ last)
    (inside : last < d.lines.length) :
    s.writeRange script first last (Text.unlines (d.lines.extract first (last + 1))) =
      if d.lines[last]? = some "" then
        .ok (⟨s.scripts.put script { d with lines := d.lines.eraseIdx last }⟩,
          ⟨first, last - first, -1⟩)
      else .ok (⟨s.scripts.put script d⟩, ⟨first, last + 1 - first, 0⟩) := by
  have back := Text.splice_extract (unbroken script d found) forward inside
  split
  · next empty =>
    rw [if_pos empty] at back
    exact edit_eq_ok_iff.2 ⟨d, _, found, back, rfl⟩
  · next text =>
    rw [if_neg text] at back
    exact edit_eq_ok_iff.2 ⟨d, _, found, back, rfl⟩

/-- Any range of a script can be read and written back. All that is stored stays as it is then, but
for an empty line at the end of the range: that one is lost, and the lines behind it move up. So the
lines behind stay in place and the script keeps its text exactly when the last line is not empty. -/
theorem writeRange_readRange (s : Store) (unbroken : s.Unbroken) (script : String)
    (d : Text.Document) (found : s.scripts.get? script = some d) (first last : Nat)
    (forward : first ≤ last) (inside : last < d.lines.length) :
    ∃ text s' written, s.readRange script first last = .ok text ∧
      s.writeRange script first last text = .ok (s', written) ∧
      s'.scripts.get? script = some { d with
        lines := if d.lines[last]? = some "" then d.lines.eraseIdx last else d.lines } ∧
      (∀ other, other ≠ script → s'.scripts.get? other = s.scripts.get? other) ∧
      written.lineDelta = (if d.lines[last]? = some "" then -1 else 0) ∧
      (written.lineDelta = 0 ∧ s'.content? script = s.content? script ↔
        d.lines[last]? ≠ some "") := by
  have read : s.readRange script first last =
      .ok (Text.unlines (d.lines.extract first (last + 1))) :=
    readRange_eq_ok_iff.2 ⟨d, found, Text.extract_eq_ok_iff.2 ⟨⟨forward, inside⟩, rfl⟩⟩
  have write := writeRange_extract unbroken found forward inside
  split at write
  · next empty =>
    refine ⟨_, _, _, read, write, ?_, ?_, ?_, ?_⟩
    · simp [empty]
    · intro other ne
      simp [Table.get?_put, ne]
    · simp [empty]
    · simp [empty]
  · next text =>
    refine ⟨_, _, _, read, write, ?_, ?_, ?_, ?_⟩
    · simp [text]
    · intro other ne
      simp [Table.get?_put, ne]
    · simp [text]
    · simp [text, content?, found]

/-- A label that holds an empty line and a line that ends with a carriage return comes back as it
was. -/
theorem writeRange_readRange_empty_inside :
    let s := ({} : Store).put "s" "label a:\r\n\n    one\n\nlabel b:\n"
    let d : Text.Document := ⟨["label a:\r", "", "    one", "", "label b:"], true⟩
    s.Unbroken ∧ s.scripts.get? "s" = some d ∧ 0 ≤ 2 ∧ 2 < d.lines.length ∧
      ∃ text s' written, s.readRange "s" 0 2 = .ok text ∧
        s.writeRange "s" 0 2 text = .ok (s', written) ∧ written.lineDelta = 0 ∧
        s'.content? "s" = s.content? "s" := by
  intro s d
  have unbroken : s.Unbroken := unbroken_put unbroken_empty
  have found : s.scripts.get? "s" = some d := by decide +kernel
  refine ⟨unbroken, found, by decide, by decide, ?_⟩
  obtain ⟨text, s', written, read, write, -, -, -, same⟩ :=
    writeRange_readRange s unbroken "s" d found 0 2 (by decide) (by decide)
  have kept := same.2 (by decide)
  exact ⟨text, s', written, read, write, kept.1, kept.2⟩

/-- A label with an empty line before the next one is read and written back. The empty line is
lost. -/
theorem writeRange_readRange_loses_line :
    let s := ({} : Store).put "s" "label a:\n    one\n\nlabel b:\n    two\n"
    (s.readRange "s" 0 2).toOption = some "label a:\n    one\n" ∧
      (s.writeRange "s" 0 2 "label a:\n    one\n").toOption.map
          (fun p => (p.1.content? "s", p.2)) =
        some (some "label a:\n    one\nlabel b:\n    two\n", ⟨0, 2, -1⟩) := by
  decide +kernel

end Store

end StoryScript
