import StoryScript.Proofs.NoteLines
import StoryScript.Proofs.Regions
import StoryScript.Proofs.Resaving

/-!
# Opening what was saved

A save puts the base indent and the sidecar line around what was typed, and takes the text apart
into lines. When the statement is opened again, the lines are put together and both come off. What
was typed comes back, unless it looks as if it belonged to what is put around it.

## Main definitions

* `SaveRequest.Legible` — notes and a body that can be told from what is put around them.
* `Session.Reopens` — an excerpt opens with what a request asked to save.

## Main statements

* `Text.extract_splice`, `Store.readRange_written` — the lines that were written can be read.
* `Sidecar.stripIndent_restoreIndent_of_edge` — the indent comes off the body that it was put in
  front of.
* `Sidecar.split_attach` — the sidecar line comes off the body that it was put in front of.
* `Session.reopens_text` — what a session writes opens as it was saved.
* `Editor.save_reopens` — so it is after a save, whatever happened before.
-/

namespace StoryScript

/-! ## Reading what was written -/

section

variable {lines lines' : List String} {first last : Nat} {text : String} {written : Text.Written}

/-- The lines that replaced a range are found where the edit says. -/
theorem Text.extract_splice (done : splice lines first last text = .ok (lines', written))
    (some_left : toLines text ≠ []) :
    extract lines' written.startLine (written.startLine + written.lineCount - 1) =
      .ok (unlines (toLines text)) := by
  obtain ⟨⟨forward, inside⟩, -⟩ := splice_eq_ok_iff.1 done
  rw [splice_inside forward inside] at done
  cases done
  exact Edit.extract_apply (Edit.fits_replacing forward inside text) some_left

theorem Store.readRange_written {s s' : Store} {script : String}
    (done : s.writeRange script first last text = .ok (s', written))
    (some_left : Text.toLines text ≠ []) :
    s'.readRange script written.startLine (written.startLine + written.lineCount - 1) =
      .ok (Text.unlines (Text.toLines text)) := by
  obtain ⟨d, lines, -, spliced, rfl⟩ := edit_eq_ok_iff.1 done
  refine readRange_eq_ok_iff.2 ⟨_, Table.get?_put_self .., ?_⟩
  exact Text.extract_splice spliced some_left

end

/-! ## The parts of what was written -/

namespace Sidecar

open Text

variable {body base : String} {m : Metadata} {style : Style}

section Indent

variable (indent : ∀ c ∈ base.toList, isIndentChar c = true)

include indent

theorem firstLine_restoreIndent :
    (firstLine (restoreIndent body base)).1 = addIndent base (firstLine body).1 := by
  obtain ⟨rest, lines⟩ := exists_segments_eq body
  obtain ⟨rest', lines'⟩ := exists_segments_eq (restoreIndent body base)
  rw [segments_restoreIndent indent, lines, List.map_cons] at lines'
  exact (List.cons.inj lines').1.symm

/-- No indent makes a line empty. -/
theorem getLast?_restoreIndent (last : (segments body).getLast? ≠ some "") :
    (segments (restoreIndent body base)).getLast? ≠ some "" := by
  rw [segments_restoreIndent indent, List.getLast?_map]
  intro empty
  obtain ⟨line, here, gone⟩ := Option.map_eq_some_iff.1 empty
  unfold addIndent at gone
  split at gone
  · exact last (gone ▸ here)
  · exact last ((String.append_eq_empty_iff.1 gone).2 ▸ here)

/-- A body that begins at the edge is found again behind any indent. -/
theorem stripIndent_restoreIndent_of_edge (text : isBlank (firstLine body).1 = false)
    (edge : leadingIndent (firstLine body).1 = "") :
    stripIndent (restoreIndent body base) =
      ⟨{ indent := base, stripped := !base.isEmpty }, body⟩ := by
  obtain ⟨rest, lines⟩ := exists_segments_eq body
  have flush : stripIndent body = ⟨{}, body⟩ := by
    simp [stripIndent, baseIndent, lines, text, edge]
  have textual : ∃ line ∈ segments body, isBlank line = false :=
    ⟨_, lines ▸ List.mem_cons_self, text⟩
  rw [stripIndent_restoreIndent indent textual (by rw [flush]), flush, String.append_empty]

end Indent

/-- Notes in front of a body that does not begin with a blank line are told from it again. -/
theorem split_attach (some_set : m.isEmpty = false)
    (values : ∀ f value, m.get f = some value → value ≠ "" ∧ Unbroken value)
    (indent : ∀ c ∈ style.indent.toList, isIndentChar c = true)
    (text : isBlank (firstLine body).1 = false) :
    ∃ n, n.same m = true ∧ split (attach body m style) = (n, body) ∧
      style? (attach body m style) = some style ∧
      ∃ line, segments (attach body m style) = line :: segments body := by
  obtain ⟨note, written⟩ : ∃ note, format m = some note := ⟨_, by rw [format, some_set]; rfl⟩
  obtain ⟨n, notes, same⟩ := exists_parse_styled written indent fun f empty =>
    (values f "" empty).1 rfl
  have unbroken := (unbroken_styled_iff written indent).2 fun f value note =>
    (values f value note).2
  have style_eq := ofLine_format written indent
  obtain ⟨kept, nonempty⟩ := dropBlankLine_of_text rfl text
  have attached : attach body m style =
      style.indent ++ note ++ (if style.crlf then "\r" else "") ++ "\n" ++ body := by
    simp [attach, written, nonempty]
  have first_eq := firstLine_append_feed unbroken body
  have lines := segments_append_feed (style.indent ++ note ++ if style.crlf then "\r" else "") body
  rw [segments_of_unbroken unbroken, List.singleton_append] at lines
  rw [attached]
  refine ⟨n, same, ?_, ?_, _, lines⟩
  · rw [split_of_some first_eq notes, Option.map_some, kept, Option.getD_some]
  · rw [style?_of_some first_eq notes, style_eq]

end Sidecar

/-- What a request asks to save can be told from what is put around it. Its notes can be written,
or there are none and the body does not begin with a line that looks like notes. The body begins
right at the edge and ends with a line that is not empty. -/
structure SaveRequest.Legible (q : SaveRequest) : Prop where
  notes : (q.metadata.isEmpty = false ∧
      ∀ f value, q.metadata.get f = some value → value ≠ "" ∧ Text.Unbroken value) ∨
    (q.metadata.isEmpty = true ∧ Sidecar.parse (Sidecar.firstLine q.body).1 = none)
  text : Text.isBlank (Sidecar.firstLine q.body).1 = false
  edge : Text.leadingIndent (Sidecar.firstLine q.body).1 = ""
  last : (Text.segments q.body).getLast? ≠ some ""

/-- An excerpt opens with what a request asked to save: with its notes and its body, at the indent
of a session, and with the sidecar line in the style of that session. -/
def Session.Reopens (s : Session) (q : SaveRequest) (excerpt : String) : Prop :=
  ∀ node entry readOnly viewport,
    let t := ofExcerpt node entry excerpt readOnly viewport
    t.metadata.same q.metadata = true ∧ t.body = q.body ∧ t.indent = s.indent ∧
      t.sidecar = if q.metadata.isEmpty then none else some (s.sidecarStyle (s.indented q.body))

namespace Session

variable {node excerpt : String} {entry : Entry} {readOnly : Bool} {viewport : Viewport}
  {s : Session} {q : SaveRequest}

theorem indent_ofExcerpt : (ofExcerpt node entry excerpt readOnly viewport).indent =
    (Text.stripIndent (Sidecar.split excerpt).2).info := by
  unfold ofExcerpt
  split
  next split => rw [split]

theorem body_ofExcerpt : (ofExcerpt node entry excerpt readOnly viewport).body =
    (Text.stripIndent (Sidecar.split excerpt).2).text := by
  unfold ofExcerpt
  split
  next split => rw [split]

/-- The indent of a session whose excerpt was sound: some spaces and tabs, which were taken off if
there are any. -/
theorem exists_indent (session : s = ofExcerpt node entry excerpt readOnly viewport)
    (sound : s.indent.error = none) :
    ∃ base, (∀ c ∈ base.toList, Text.isIndentChar c = true) ∧
      s.indent = { indent := base, stripped := !base.isEmpty } := by
  rw [session, indent_ofExcerpt] at sound ⊢
  refine ⟨Text.baseIndent (Text.segments (Sidecar.split excerpt).2), fun c => ?_, ?_⟩
  · exact Text.isIndentChar_of_mem_baseIndent
  · rw [Text.stripIndent_of_sound sound]

theorem indented_eq {base : String} (h : s.indent = { indent := base, stripped := !base.isEmpty })
    (body : String) : s.indented body = Text.restoreIndent body base := by
  rw [indented, h]
  by_cases none_there : base = "" <;> simp [none_there]

/-- A sidecar line stands behind spaces and tabs only. -/
theorem isIndentChar_of_mem_sidecarStyle
    (session : s = ofExcerpt node entry excerpt readOnly viewport)
    (indent : ∀ c ∈ s.indent.indent.toList, Text.isIndentChar c = true) (body : String) :
    ∀ c ∈ (s.sidecarStyle body).indent.toList, Text.isIndentChar c = true := by
  rw [sidecarStyle]
  cases style : s.sidecar with
  | none => exact indent
  | some style =>
    rw [session, sidecar_ofExcerpt, Sidecar.style?, Option.map_eq_some_iff] at style
    obtain ⟨-, -, rfl⟩ := style
    exact fun c => Text.isIndentChar_of_mem_leadingIndent

/-- What a session writes opens as it was to be saved, and it ends with a line that is not empty. -/
theorem reopens_text (session : s = ofExcerpt node entry excerpt readOnly viewport)
    (sound : s.indent.error = none) (legible : q.Legible) :
    s.Reopens q (s.text q) ∧ (Text.segments (s.text q)).getLast? ≠ some "" := by
  obtain ⟨base, indent, indent_eq⟩ := exists_indent session sound
  set body := s.indented q.body with body_eq
  have restored : body = Text.restoreIndent q.body base := indented_eq indent_eq q.body
  have first_eq : (Sidecar.firstLine body).1 = Text.addIndent base (Sidecar.firstLine q.body).1 :=
    restored ▸ Sidecar.firstLine_restoreIndent indent
  have last : (Text.segments body).getLast? ≠ some "" :=
    restored ▸ Sidecar.getLast?_restoreIndent indent legible.last
  have stripped : Text.stripIndent body = ⟨s.indent, q.body⟩ := by
    rw [restored, indent_eq]
    exact Sidecar.stripIndent_restoreIndent_of_edge indent legible.text legible.edge
  rcases legible.notes with ⟨some_set, values⟩ | ⟨none_set, other⟩
  · have style := isIndentChar_of_mem_sidecarStyle session (by rwa [indent_eq]) body
    have textual : Text.isBlank (Sidecar.firstLine body).1 = false := by
      rw [first_eq, Text.isBlank_addIndent indent, legible.text]
    obtain ⟨n, same, split, style?, line, lines⟩ :=
      Sidecar.split_attach some_set values style textual
    have text_eq : s.text q = Sidecar.attach body q.metadata (s.sidecarStyle body) := rfl
    refine ⟨fun node entry readOnly viewport => ?_, ?_⟩
    · simp [metadata_ofExcerpt, body_ofExcerpt, indent_ofExcerpt, sidecar_ofExcerpt, text_eq, split,
        style?, stripped, same, some_set, ← body_eq]
    · rw [text_eq, lines, List.getLast?_cons_of_ne_nil (Text.segments_ne_nil _)]
      exact last
  · have text_eq : s.text q = body := by
      simp [text, Sidecar.attach, Sidecar.format, none_set, ← body_eq]
    have other' : Sidecar.parse (Sidecar.firstLine body).1 = none := by
      rw [first_eq, Sidecar.parse_addIndent indent, other]
    have split := Sidecar.split_of_none rfl other'
    have same : ({} : Sidecar.Metadata).same q.metadata = true := by
      refine Sidecar.Metadata.same_iff.2 fun f => ?_
      rw [Sidecar.Metadata.get_empty, Sidecar.Metadata.isEmpty_iff.1 none_set f]
    refine ⟨fun node entry readOnly viewport => ?_, text_eq ▸ last⟩
    simp [metadata_ofExcerpt, body_ofExcerpt, indent_ofExcerpt, sidecar_ofExcerpt, text_eq, split,
      stripped, same, none_set, Sidecar.style?, other']

end Session

namespace Editor

/-- A statement is open whose indent was sound, and a save of legible notes and a legible body
succeeds. The lines that were written can be read then, and what is read opens with these notes and
this body, at the same indent and with the sidecar line as it was written. -/
theorem save_reopens (script : String) (config : Config) (me : Participant) (parser : Parser)
    (w : Shared) (events : List Event) (s : Session)
    (isOpen : (run (new script config me parser, w) events).1.stage.session? = some s)
    (sound : s.indent.error = none) (q : SaveRequest) (legible : q.Legible)
    (outcome : SaveOutcome) :
    let x := run (new script config me parser, w) events
    let saved := x.1.handle x.2 (.save q)
    saved.1 = .ok (.saved outcome) →
      let written := outcome.write
      written.startLine = s.startLine ∧ 0 < written.lineCount ∧
        ∃ excerpt, saved.2.2.store.readRange script written.startLine
            (written.startLine + written.lineCount - 1) = .ok excerpt ∧
          s.Reopens q excerpt := by
  intro x saved success written
  obtain ⟨o⟩ := exists_opening rfl isOpen
  obtain ⟨d, -, -, -, entry, viewport, session⟩ := o.spec
  obtain ⟨reopens, last⟩ := Session.reopens_text session sound legible
  obtain ⟨s', isOpen', write⟩ := (exit_handle x.1 x.2 (.save q)).saved success
  obtain rfl : s' = s := Option.some.inj (isOpen'.symm.trans isOpen)
  rw [show x.1.script = script from script_run _ _] at write
  -- the text ends with a line that is not empty, so it is all lines
  have all_lines : Text.toLines (s'.text q) = Text.segments (s'.text q) := by
    rw [Text.toLines_eq, if_neg last]
  have some_left : Text.toLines (s'.text q) ≠ [] := all_lines ▸ Text.segments_ne_nil _
  obtain ⟨d', lines, -, spliced, -⟩ := Store.edit_eq_ok_iff.1 write
  obtain ⟨-, -, written_eq⟩ := Text.splice_eq_ok_iff.1 spliced
  change written = _ at written_eq
  refine ⟨?_, ?_, s'.text q, ?_, reopens⟩
  · rw [written_eq]
  · rw [written_eq]
    exact List.length_pos_iff.2 some_left
  · have read := Store.readRange_written write some_left
    rwa [all_lines, Text.unlines_segments] at read

/-- A save that succeeds is answered with what it did. -/
theorem exists_saved {α : Type} {e : Editor} {w : Shared} {q : SaveRequest} {f : SaveOutcome → α}
    {told : α} (h : (e.save w q).1.toOption.map f = some told) :
    ∃ outcome, (e.handle w (.save q)).1 = .ok (.saved outcome) ∧ f outcome = told := by
  have answer_eq : (e.handle w (.save q)).1 = (e.save w q).1.map .saved := rfl
  rw [answer_eq]
  cases result : (e.save w q).1 with
  | error err => simp [result, Except.toOption] at h
  | ok outcome => exact ⟨outcome, rfl, by simpa [result, Except.toOption] using h⟩

/-- A statement gets its first notes, and a body with carriage returns, an empty line, a line that
looks like notes and a line that stands further in. -/
theorem save_reopens_first_notes :
    let w : Shared := { store := ({} : Store).put "s" "label a:\n    one\n    two\n" }
    let events : List Event := [.ask .load, .ask (.beginEdit "a-0")]
    let x := run (new "s" {} 0 outline, w) events
    let q : SaveRequest :=
      { body := "eins\r\n\n# @node tag=x\n\tzwei\r"
        metadata := { name := some "some \"day\"", tag := some "#1" } }
    let saved := x.1.handle x.2 (.save q)
    let excerpt := "    # @node name=\"some \\\"day\\\"\" tag=#1\r\n" ++
      "    eins\r\n\n    # @node tag=x\n    \tzwei\r"
    ∃ s, x.1.stage.session? = some s ∧ s.indent.error = none ∧ q.Legible ∧
      (∃ outcome, saved.1 = .ok (.saved outcome)) ∧
      saved.2.2.store.readRange "s" 1 5 = .ok excerpt ∧ s.Reopens q excerpt := by
  intro w events x q saved excerpt
  obtain ⟨fields, answer, shown⟩ :
      (x.1.stage.session?.map fun s => s.indent.error) = some none ∧
      ((x.1.save x.2 q).1.toOption.map (·.write)) = some ⟨1, 5, 4⟩ ∧
      saved.2.2.store.readRange "s" 1 5 = .ok excerpt := by
    decide +kernel
  have reopens := save_reopens "s" {} 0 outline w events
  have x_eq : run (new "s" {} 0 outline, w) events = x := rfl
  rw [x_eq] at reopens
  clear_value x
  obtain ⟨s, isOpen, sound⟩ := Option.map_eq_some_iff.1 fields
  have legible : q.Legible := by
    refine ⟨.inl ⟨by decide, ?_⟩, by decide +kernel, by decide +kernel, by decide +kernel⟩
    intro f value note
    cases f with
    | name | tag =>
      obtain rfl : _ = value := Option.some.inj note
      simp [Text.Unbroken]
    | status | author | accentColor | tagColor => cases note
  obtain ⟨outcome, success, write⟩ := exists_saved answer
  obtain ⟨-, -, excerpt', read, reopens⟩ := reopens s isOpen sound q legible outcome success
  rw [write] at read
  obtain rfl : excerpt = excerpt' := Except.ok.inj (shown.symm.trans read)
  exact ⟨s, isOpen, sound, legible, ⟨outcome, success⟩, shown, reopens⟩

end Editor

end StoryScript
