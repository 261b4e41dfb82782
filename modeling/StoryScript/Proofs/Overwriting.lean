import StoryScript.Proofs.Rooms

/-!
# What a save overwrites

A session keeps the range of its statement from when it was opened, and others edit the script
meanwhile. News of a change are put off until the session ends, so a save writes to the old range
even when its lines have moved away. Here it is settled when the lines that are overwritten are the
ones that were shown.

## Main definitions

* `Session.linesIn` — the lines in the range of a session.
* `Session.Shows` — a session was opened on these lines of the script.
* `Room.Opening.Told` — an editor heard of what others changed since it opened a statement.

## Main statements

* `save_replaces_shown_iff` — a save overwrites the lines that were shown exactly when each line in
  the range comes from the same line or from one that reads alike.
* `save_overwrites_line_of_other` — a save that does not.
-/

namespace StoryScript

open Text (Edit Origin origin)

/-- The lines in the range of a session. -/
def Session.linesIn (s : Session) (lines : List String) : List String :=
  lines.extract s.startLine (s.endLine + 1)

/-- A session was opened on these lines of the script. -/
def Session.Shows (s : Session) (lines : List String) : Prop :=
  ∃ entry viewport, s = Session.ofExcerpt s.nodeId entry (Text.unlines (s.linesIn lines))
    s.readOnly viewport

/-- Ranges of two scripts are the same when they are so line by line. -/
theorem Session.linesIn_eq_iff (s : Session) (a b : List String) :
    s.linesIn a = s.linesIn b ↔ ∀ k, s.startLine ≤ k → k ≤ s.endLine → a[k]? = b[k]? := by
  have lookup (lines : List String) (j : Nat) : (s.linesIn lines)[j]? =
      if j < s.endLine + 1 - s.startLine then lines[s.startLine + j]? else none := by
    simp [linesIn, List.extract_eq_take_drop, List.getElem?_take]
  constructor
  · intro same k from_start to_end
    have at_k : s.startLine + (k - s.startLine) = k := by omega
    have same_at := congrArg (·[k - s.startLine]?) same
    simpa [lookup, show k - s.startLine < s.endLine + 1 - s.startLine by omega, at_k] using same_at
  · intro same
    refine List.ext_getElem? fun j => ?_
    rw [lookup, lookup]
    split
    · next inside => exact same _ (by omega) (by omega)
    · rfl

namespace Editor

variable {e : Editor} {w : Shared} {o : Outcome Answer}

/-- A save that succeeds has written the text of the open session to its range. -/
theorem Exit.saved {q : SaveRequest} {outcome : SaveOutcome} (exit : Exit e w (.save q) o)
    (saved : o.1 = .ok (.saved outcome)) :
    ∃ s, e.stage.session? = some s ∧ w.store.writeRange e.script s.startLine s.endLine (s.text q)
      = .ok (o.2.2.store, outcome.write) := by
  cases exit with
  | saveReloaded stage fault write =>
    cases saved
    exact ⟨_, by rw [stage]; rfl, write⟩
  | savePatched stage fault write =>
    cases saved
    exact ⟨_, by rw [stage]; rfl, write⟩
  | _ => cases saved

end Editor

namespace Room

variable {ι : Type} [DecidableEq ι] {r : Room ι} {script : String} {moments : List (Moment ι)}
  {i : ι} {s : Session}

omit [DecidableEq ι] in
/-- A save that is answered without an error is answered as one. -/
theorem exists_saved {q : SaveRequest} (h : (r.answer i (.save q)).isOk) :
    ∃ outcome, r.answer i (.save q) = .ok (.saved outcome) := by
  have answer_eq : r.answer i (.save q) = ((r.editor i).save r.shared q).1.map .saved := rfl
  rw [answer_eq] at h ⊢
  cases result : ((r.editor i).save r.shared q).1 with
  | error err =>
    rw [result] at h
    cases h
  | ok outcome => exact ⟨outcome, rfl⟩

/-- The edits made while the statement was open, each with its author. -/
def Opening.log (o : r.Opening moments i s) : List (ι × Edit) :=
  o.room.log o.since

/-- The edits made while the statement was open. -/
def Opening.edits (o : r.Opening moments i s) : List Edit :=
  o.log.map Prod.snd

/-- If anything was edited while the statement was open, its editor was told so. -/
def Opening.Told (o : r.Opening moments i s) : Prop :=
  o.log ≠ [] → .ask i .scriptChanged ∈ o.since

/-- What the editor saw when it opened the statement, and that no refresh was due then. -/
theorem Opening.spec (o : r.Opening moments i s) (on : r.On script) :
    ∃ shown, (r.run o.before).lines? script = some shown ∧ s.Shows shown ∧
      o.room.lines? script = some shown ∧ (o.room.editor i).pending = false := by
  have exit := Editor.exit_handle ((r.run o.before).editor i) (r.run o.before).shared
    (.beginEdit o.node)
  obtain ⟨⟨entry, excerpt, viewport, read, session⟩, -, fresh⟩ := exit.opening o.opened
  rw [on.run o.before i] at read
  obtain ⟨shown, before, text⟩ := Store.readRange_ok read
  have shows : s.Shows shown := by
    refine ⟨entry, viewport, ?_⟩
    have node := congrArg Session.nodeId session
    have first := congrArg Session.startLine session
    have last := congrArg Session.endLine session
    rw [Session.nodeId_ofExcerpt] at node
    rw [Session.startLine_ofExcerpt] at first
    rw [Session.endLine_ofExcerpt] at last
    rw [Session.linesIn, node, first, last, ← text]
    exact session
  refine ⟨shown, before, shows, ?_, ?_⟩
  · rcases lines_pass (on.run o.before) before (.ask i (.beginEdit o.node)) with
      ⟨-, same⟩ | ⟨j, d, some, -⟩
    · exact same
    · cases some
  · rw [room, editor_call_self]
    exact fresh

/-- Only others edit the script while a statement is open. -/
theorem Opening.others (o : r.Opening moments i s) : ∀ c ∈ o.log, c.1 ≠ i :=
  (log_of_kept o.kept_room).1

/-- A refresh is due once the editor was told of a change, and not before. -/
theorem Opening.pending_iff (o : r.Opening moments i s) (on : r.On script) :
    ((r.run moments).editor i).pending = true ↔ .ask i .scriptChanged ∈ o.since := by
  obtain ⟨-, -, -, -, fresh⟩ := o.spec on
  have pending := (log_of_kept o.kept_room).2
  simpa [o.run_since, fresh] using pending

/-- When an editor that is told of changes knows of none, there was none. -/
theorem Opening.edits_eq_nil (o : r.Opening moments i s) (on : r.On script) (told : o.Told)
    (up_to_date : ((r.run moments).editor i).pending = false) : o.edits = [] := by
  by_contra edited
  have unedited : o.log ≠ [] := fun none => edited (by rw [edits, none]; rfl)
  have due := (o.pending_iff on).2 (told unedited)
  simp [up_to_date] at due

/-- Every line reads as its origin did when the statement was opened. -/
theorem Opening.getElem?_run (o : r.Opening moments i s) (on : r.On script) {shown : List String}
    (opened : o.room.lines? script = some shown) :
    ∃ now, (r.run moments).lines? script = some now ∧
      ∀ k, now[k]? = (origin o.edits k).read shown := by
  have on_room : o.room.On script := (on.run o.before).pass (.ask i (.beginEdit o.node))
  obtain ⟨now, present, reads⟩ := Room.getElem?_run on_room opened o.since
  rw [o.run_since] at present
  exact ⟨now, present, reads⟩

/-- Let any editors of a script, none of which has a statement open, be asked for anything in any
order while their surroundings change and locks expire, and let one of them then save. Its session
was opened at some point of the run, only others edited the script since, and the save overwrites
the range of the session, whatever stands there now. These are the lines that were shown exactly
when every line of the range comes from itself or from one that reads alike; so it is when all edits
were clear of the range, and when no refresh is due in an editor that is told of changes. -/
theorem save_replaces_shown_iff (r : Room ι) (on : r.On script)
    (closed : ∀ i, r.session? i = none) (moments : List (Moment ι)) (i : ι) (q : SaveRequest)
    (outcome : Editor.SaveOutcome)
    (saved : (r.run moments).answer i (.save q) = .ok (.saved outcome)) :
    ∃ (s : Session) (o : r.Opening moments i s) (shown now : List String),
      (r.run o.before).lines? script = some shown ∧ s.Shows shown ∧
      (r.run moments).lines? script = some now ∧
      ((r.run moments).call (i, .save q)).lines? script = some
        (now.take s.startLine ++ Text.toLines (s.text q) ++ now.drop (s.endLine + 1)) ∧
      (∀ c ∈ o.log, c.1 ≠ i) ∧
      (s.linesIn now = s.linesIn shown ↔ ∀ k, s.startLine ≤ k → k ≤ s.endLine →
        (origin o.edits k).read shown = shown[k]?) ∧
      ((∀ d ∈ o.edits, d.Clear s.startLine s.endLine) → s.linesIn now = s.linesIn shown) ∧
      (((r.run moments).editor i).pending = false → o.Told → s.linesIn now = s.linesIn shown) := by
  have exit := Editor.exit_handle ((r.run moments).editor i) (r.run moments).shared (.save q)
  obtain ⟨s, isOpen, write⟩ := exit.saved saved
  obtain ⟨o⟩ := exists_opening closed isOpen
  obtain ⟨shown, before, shows, opened, -⟩ := o.spec on
  obtain ⟨now, present, reads⟩ := o.getElem?_run on opened
  have replaced : ((r.run moments).call (i, .save q)).lines? script = some
      (now.take s.startLine ++ Text.toLines (s.text q) ++ now.drop (s.endLine + 1)) := by
    rw [on.run moments i] at write
    obtain ⟨lines, present', forward, -, after, -⟩ := Store.writeRange_ok write
    obtain rfl : now = lines := Option.some.inj (present.symm.trans present')
    have behind : s.startLine + (s.endLine + 1 - s.startLine) = s.endLine + 1 := by omega
    rw [lines?]
    refine after.trans ?_
    rw [Edit.apply, behind]
  have same_iff : s.linesIn now = s.linesIn shown ↔ ∀ k, s.startLine ≤ k → k ≤ s.endLine →
      (origin o.edits k).read shown = shown[k]? := by
    rw [Session.linesIn_eq_iff]
    simp only [reads]
  have same_of_clear (clear : ∀ d ∈ o.edits, d.Clear s.startLine s.endLine) :
      s.linesIn now = s.linesIn shown := by
    refine same_iff.2 fun k from_start to_end => ?_
    rw [Text.origin_of_clear clear from_start to_end]
    rfl
  refine ⟨s, o, shown, now, before, shows, present, replaced, o.others, same_iff, same_of_clear, ?_⟩
  intro up_to_date told
  have unedited := o.edits_eq_nil on told up_to_date
  exact same_of_clear fun d mem => by simp [unedited] at mem

/-- One editor rewrote the first statement and told the other, which had the second one open and
saved it. As many lines went out as came in, so what was overwritten had been shown. -/
theorem save_replaces_shown_beside_rewrite :
    let r : Room Bool := ⟨fun right => .new "s" {} (if right then 1 else 0) outline,
      { store := ({} : Store).put "s" "label a:\n    one\n    two\n" }⟩
    let moments : List (Moment Bool) := [.ask false .load, .ask true .load,
      .ask false (.beginEdit "a-1"), .ask true (.beginEdit "a-0"),
      .change true (.parser fun _ => .error "down"), .ask true (.save { body := "eins" }),
      .ask false .scriptChanged]
    r.On "s" ∧ (∀ i, r.session? i = none) ∧
      ((r.run moments).answer false (.save { body := "zwei" })).isOk ∧
      ∃ (s : Session) (o : r.Opening moments false s) (shown : List String), s.Shows shown ∧
        o.log = [(true, ⟨1, 1, ["    eins"]⟩)] ∧ s.linesIn shown = ["    two"] := by
  intro r moments
  -- only at the third moment a statement is opened for this editor
  have once (before since : List (Moment Bool)) (node : String)
      (split : moments = before ++ .ask false (.beginEdit node) :: since) :
      before = moments.take 2 ∧ since = moments.drop 3 ∧ node = "a-1" := by
    rcases before with _ | ⟨_, _ | ⟨_, _ | ⟨_, _ | ⟨_, _ | ⟨_, _ | ⟨_, _ | ⟨_, _⟩⟩⟩⟩⟩⟩⟩ <;>
      simp_all [moments]
  have on : r.On "s" := fun i => rfl
  have closed : ∀ i, r.session? i = none := fun i => rfl
  have succeeds : ((r.run moments).answer false (.save { body := "zwei" })).isOk := by
    decide +kernel
  have lines : (r.run moments).lines? "s" = some ["label a:", "    eins", "    two"] := by
    decide +kernel
  have range : ((r.run moments).session? false).map (fun s => (s.startLine, s.endLine))
      = some (2, 2) := by decide +kernel
  refine ⟨on, closed, succeeds, ?_⟩
  obtain ⟨outcome, saved⟩ := exists_saved succeeds
  obtain ⟨s, o, shown, now, -, shows, present, -, -, -, same_of_clear, -⟩ :=
    save_replaces_shown_iff r on closed moments false { body := "zwei" } outcome saved
  obtain rfl : ["label a:", "    eins", "    two"] = now :=
    Option.some.inj (lines.symm.trans present)
  rw [o.isOpen] at range
  obtain ⟨first, last⟩ := Prod.mk.inj (Option.some.inj range)
  obtain ⟨before, since, node⟩ := once o.before o.since o.node o.split
  have log : o.log = [(true, ⟨1, 1, ["    eins"]⟩)] := by
    rw [Opening.log, Opening.room, before, since, node]
    decide +kernel
  refine ⟨s, o, shown, shows, log, ?_⟩
  have clear : ∀ d ∈ o.edits, d.Clear s.startLine s.endLine := by
    rw [Opening.edits, log, first, last]
    decide
  rw [← same_of_clear clear, Session.linesIn, first, last]
  rfl

/-- One editor inserted a line in front of the statement that the other had open, and told it so.
The other saved, and what it overwrote was the new line. -/
theorem save_overwrites_line_of_other :
    let r : Room Bool := ⟨fun right => .new "s" {} (if right then 1 else 0) outline,
      { store := ({} : Store).put "s" "label a:\n    one\n    two\n" }⟩
    let opened : List (Moment Bool) :=
      [.ask false .load, .ask true .load, .ask false (.beginEdit "a-1")]
    let since : List (Moment Bool) :=
      [.ask true (.insertAfter "a-0" "    new\n"), .ask false .scriptChanged]
    (r.run opened).lines? "s" = some ["label a:", "    one", "    two"] ∧
      ((r.run opened).session? false).map (fun s => (s.startLine, s.endLine, s.body))
        = some (2, 2, "two") ∧
      (r.run opened).log since = [(true, ⟨2, 0, ["    new"]⟩)] ∧
      (r.run (opened ++ since)).lines? "s"
        = some ["label a:", "    one", "    new", "    two"] ∧
      ((r.run (opened ++ since)).answer false (.save { body := "zwei" })).isOk ∧
      ((r.run (opened ++ since)).call (false, .save { body := "zwei" })).lines? "s"
        = some ["label a:", "    one", "    zwei", "    two"] := by
  decide +kernel

end Room

end StoryScript
