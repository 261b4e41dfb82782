import Mathlib.Data.List.Induction
import StoryScript.Proofs.WritingBack

/-!
# Line numbers of a stored script

A stored script is a list of lines with a mark for the final line feed; whoever reads all of it gets
a text, and numbers the lines of that text. Edits change the list and leave the mark alone, so the
two can come apart at the end of the script: a script that lost all its lines still has its final
line feed, which looks like an empty line, and an empty last line without a line feed looks like
none.

## Main definitions

* `StoreCall`, `Store.after`, `Store.afterAll` — changes of what is stored, and many of them.
* `StoreCall.text?`, `lastText?` — the text that a script was last put with.
* `Document.Plain` — the text of a script has the lines that the script has.

## Main statements

* `Store.unbroken_after`, `Store.finalNewline_after` — what a change keeps.
* `Store.unbroken_afterAll`, `Store.finalNewline_afterAll` — what any number of changes keeps.
* `Store.readRange_line` — a single line is read as it is.
* `Document.plain_iff` — which scripts have the lines of their text.
* `Store.line_numbers_agree_iff` — when the lines of a script are those of its text, number by
  number.
* `Store.line_numbers_of_emptied_script` — a script whose text has a line that it has not.
-/

namespace StoryScript

/-- A change of what is stored. -/
inductive StoreCall where
  | put (script text : String)
  | write (script : String) (first last : Nat) (text : String)
  | insert (script : String) (line : Nat) (text : String)
deriving Repr, DecidableEq

/-- The text that a call puts under a name. -/
def StoreCall.text? (script : String) : StoreCall → Option String
  | put name text => if name = script then some text else none
  | _ => none

/-- The text that was last put under a name. -/
def lastText? (script : String) (calls : List StoreCall) : Option String :=
  (calls.filterMap (StoreCall.text? script)).getLast?

namespace Text.Document

/-- A script has the lines of its text: with a final line feed it has a line, and without one its
last line is not empty. -/
def Plain (d : Document) : Prop :=
  if d.finalNewline then d.lines ≠ [] else d.lines.getLast? ≠ some ""

theorem finalNewline_ofString (s : String) :
    (ofString s).finalNewline = (s.toList.getLast? == some '\n') := by
  unfold ofString
  split
  · next h => simp [h]
  · next h => simp [h]
  · next c other h =>
    have ne : c ≠ '\n' := fun same => other same
    simp [h, ne]

variable {d : Document}

/-- A script that is not plain differs from its text in one empty line at the end. -/
theorem plain_cases (unbroken : ∀ l ∈ d.lines, Unbroken l) :
    (d.Plain ∧ toLines d.toString = d.lines) ∨
      (¬ d.Plain ∧ d.lines = [] ∧ toLines d.toString = [""]) ∨
      (¬ d.Plain ∧ d.lines = toLines d.toString ++ [""]) := by
  rw [toLines_toString unbroken, Plain]
  split
  · by_cases empty : d.lines = []
    · exact .inr (.inl (by simp [empty]))
    · exact .inl (by simp [empty])
  · by_cases last : d.lines.getLast? = some ""
    · obtain ⟨init, split⟩ := List.getLast?_eq_some_iff.1 last
      exact .inr (.inr (by simp [split]))
    · exact .inl (by simp [last])

theorem plain_iff (unbroken : ∀ l ∈ d.lines, Unbroken l) :
    d.Plain ↔ d.lines = toLines d.toString := by
  rcases plain_cases unbroken with ⟨plain, same⟩ | ⟨other, empty, line⟩ | ⟨other, longer⟩
  · simp [plain, same]
  · simp [other, empty, line]
  · have differ : d.lines ≠ toLines d.toString := by
      intro same
      have lengths := congrArg List.length longer
      rw [same, List.length_append, List.length_singleton] at lengths
      omega
    simp [other, differ]

end Text.Document

namespace Store

variable {s : Store} {script name : String} {d : Text.Document} {calls : List StoreCall}

/-- What is stored after a change; one that fails changes nothing. -/
def kept (s : Store) (result : Except StoreError (Store × Text.Written)) : Store :=
  match result with
  | .ok (s', _) => s'
  | .error _ => s

/-- What is stored after a call. -/
def after (s : Store) : StoreCall → Store
  | .put script text => s.put script text
  | .write script first last text => s.kept (s.writeRange script first last text)
  | .insert script line text => s.kept (s.insertLines script line text)

/-- What is stored after one call after another. -/
def afterAll (s : Store) (calls : List StoreCall) : Store :=
  calls.foldl after s

/-! ## What changes keep -/

/-- What holds before a change and after one that succeeds is kept. -/
theorem kept_of {P : Store → Prop} {result : Except StoreError (Store × Text.Written)} (h : P s)
    (done : ∀ s' written, result = .ok (s', written) → P s') : P (s.kept result) := by
  rcases result with err | ⟨s', written⟩
  · exact h
  · exact done s' written rfl

theorem unbroken_after (h : s.Unbroken) (call : StoreCall) : (s.after call).Unbroken := by
  cases call with
  | put script text => exact unbroken_put h
  | write script first last text => exact kept_of h fun _ _ => unbroken_writeRange h
  | insert script line text => exact kept_of h fun _ _ => unbroken_insertLines h

theorem unbroken_afterAll (calls : List StoreCall) : (({} : Store).afterAll calls).Unbroken :=
  List.foldlRecOn calls after unbroken_empty fun _ h call _ => unbroken_after h call

/-- An edit leaves the final line feed of every script as it was. -/
theorem finalNewline_kept
    {f : List String → Except Text.LineError (List String × Text.Written)}
    (found : (s.kept (s.edit name f)).scripts.get? script = some d) :
    ∃ d', s.scripts.get? script = some d' ∧ d.finalNewline = d'.finalNewline := by
  revert found
  refine kept_of (P := fun s' => s'.scripts.get? script = some d → _) ?_ ?_
  · intro found
    exact ⟨d, found, rfl⟩
  · intro s' written done found
    obtain ⟨d', lines, found', -, rfl⟩ := edit_eq_ok_iff.1 done
    rw [Table.get?_put] at found
    split at found
    · next same =>
      obtain rfl := Option.some.inj found
      exact ⟨d', same ▸ found', rfl⟩
    · exact ⟨d, found, rfl⟩

/-- A script has the final line feed of the text that was put last, if that was in this call, and
otherwise the one that it had. -/
theorem finalNewline_after {call : StoreCall}
    (found : (s.after call).scripts.get? script = some d) :
    (∃ text, call.text? script = some text ∧ d = .ofString text) ∨
      call.text? script = none ∧
        ∃ d', s.scripts.get? script = some d' ∧ d.finalNewline = d'.finalNewline := by
  cases call with
  | put name text =>
    by_cases here : name = script
    · subst here
      have stored : some (Text.Document.ofString text) = some d := by
        rw [← found, after, put, Table.get?_put_self]
      exact .inl ⟨text, by simp [StoreCall.text?], (Option.some.inj stored).symm⟩
    · have away : script ≠ name := fun same => here same.symm
      rw [after, put, Table.get?_put, if_neg away] at found
      exact .inr ⟨by simp [StoreCall.text?, here], d, found, rfl⟩
  | write name first last text => exact .inr ⟨rfl, finalNewline_kept found⟩
  | insert name line text => exact .inr ⟨rfl, finalNewline_kept found⟩

/-- After any number of changes a script has the final line feed of the text that was put last. -/
theorem finalNewline_afterAll
    (found : (({} : Store).afterAll calls).scripts.get? script = some d) :
    ∃ text, lastText? script calls = some text ∧
      d.finalNewline = (text.toList.getLast? == some '\n') := by
  induction calls using List.reverseRecOn generalizing d with
  | nil => simp [afterAll] at found
  | append_singleton calls call ih =>
    have last : ({} : Store).afterAll (calls ++ [call]) =
        (({} : Store).afterAll calls).after call := by
      simp [afterAll]
    rw [last] at found
    rcases finalNewline_after found with ⟨text, put, rfl⟩ | ⟨other, d', found', same⟩
    · refine ⟨text, ?_, Text.Document.finalNewline_ofString text⟩
      simp [lastText?, List.filterMap_append, put]
    · obtain ⟨text, put, newline⟩ := ih found'
      refine ⟨text, ?_, same.trans newline⟩
      simpa [lastText?, List.filterMap_append, other] using put

/-! ## Reading line by line -/

/-- A single line is read as it is. -/
theorem readRange_line (found : s.scripts.get? script = some d) (i : Nat) (l : String) :
    s.readRange script i i = .ok l ↔ d.lines[i]? = some l := by
  rw [readRange_eq_ok_iff]
  simp only [found, Option.some.injEq, exists_eq_left', Text.extract_eq_ok_iff]
  constructor
  · rintro ⟨⟨-, inside⟩, rfl⟩
    rw [Text.extract_eq_concat (Nat.le_refl i) (List.getElem?_eq_getElem inside)]
    simp [List.getElem?_eq_getElem inside]
  · intro present
    obtain ⟨inside, -⟩ := List.getElem?_eq_some_iff.1 present
    refine ⟨⟨Nat.le_refl i, inside⟩, ?_⟩
    rw [Text.extract_eq_concat (Nat.le_refl i) present]
    simp

/-- Let scripts be put, written to and inserted into in any way, and let one be there at the end.
Its single lines are read as those of its whole text, number by number and none besides, just when
it is plain: if the text that was put last ends with a line feed, the script still has a line, and
if not, its last line is not empty. Otherwise one empty line at the end is too much or too few: the
text of a script without lines has one, or the last line of the script is missing from its text. -/
theorem line_numbers_agree_iff (calls : List StoreCall) (script : String) (d : Text.Document)
    (found : (({} : Store).afterAll calls).scripts.get? script = some d) :
    let s := ({} : Store).afterAll calls
    ∃ put text, lastText? script calls = some put ∧ s.readAll script = .ok text ∧
      ((∀ i l, s.readRange script i i = .ok l ↔ (Text.toLines text)[i]? = some l) ↔ d.Plain) ∧
      (d.Plain ↔ if put.toList.getLast? = some '\n' then d.lines ≠ []
        else d.lines.getLast? ≠ some "") ∧
      (¬ d.Plain → (d.lines = [] ∧ Text.toLines text = [""]) ∨
        d.lines = Text.toLines text ++ [""]) := by
  intro s
  have unbroken : ∀ l ∈ d.lines, Text.Unbroken l := unbroken_afterAll calls script d found
  obtain ⟨put, last, newline⟩ := finalNewline_afterAll found
  have whole : s.readAll script = .ok d.toString := by
    rw [readAll, document, found]
    rfl
  refine ⟨put, d.toString, last, whole, ?_, ?_, ?_⟩
  · have single (i : Nat) (l : String) : s.readRange script i i = .ok l ↔ d.lines[i]? = some l :=
      readRange_line found i l
    simp only [single]
    rw [Text.Document.plain_iff unbroken]
    constructor
    · intro agree
      refine List.ext_getElem? fun i => Option.ext fun l => ?_
      exact agree i l
    · intro same i l
      rw [same]
  · rw [Text.Document.Plain, newline]
    simp only [beq_iff_eq]
  · intro other
    rcases Text.Document.plain_cases unbroken with ⟨plain, -⟩ | ⟨-, empty, line⟩ | ⟨-, longer⟩
    · exact absurd plain other
    · exact .inl ⟨empty, line⟩
    · exact .inr longer

/-- A script that is emptied and filled again, with an empty line at its end. All its lines are read
under the numbers that they have in the text. -/
theorem line_numbers_agree_iff_refilled :
    let calls : List StoreCall :=
      [.put "s" "a\n", .write "s" 0 0 "", .write "s" 0 0 "lost", .insert "s" 0 "b\r\n\n"]
    let s := ({} : Store).afterAll calls
    let d : Text.Document := ⟨["b\r", ""], true⟩
    s.scripts.get? "s" = some d ∧ d.Plain ∧ s.readAll "s" = .ok "b\r\n\n" ∧
      ∀ i l, s.readRange "s" i i = .ok l ↔ (Text.toLines "b\r\n\n")[i]? = some l := by
  intro calls s d
  have found : s.scripts.get? "s" = some d := by decide +kernel
  have plain : d.Plain := by simp [Text.Document.Plain, d]
  obtain ⟨put, text, -, whole, agree, -⟩ := line_numbers_agree_iff calls "s" d found
  have content : s.readAll "s" = .ok "b\r\n\n" := by decide +kernel
  obtain rfl : "b\r\n\n" = text := Except.ok.inj (content.symm.trans whole)
  exact ⟨found, plain, content, agree.2 plain⟩

/-- The only line of a script is taken out. What is left is a final line feed, and its text has an
empty line that cannot be read. -/
theorem line_numbers_of_emptied_script :
    let s := ({} : Store).afterAll [.put "s" "a\n", .write "s" 0 0 ""]
    s.readAll "s" = .ok "\n" ∧ Text.toLines "\n" = [""] ∧
      s.readRange "s" 0 0 = .error (.lines (.range 0 0 0)) := by
  decide +kernel

end Store

end StoryScript
