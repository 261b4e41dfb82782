import StoryScript.Proofs.Failures
import StoryScript.Proofs.Overwriting
import StoryScript.Proofs.WritingBack
import StoryScript.Sidecar.Lemmas

/-!
# Saving without a change

The text of a statement is taken apart when it is opened: the sidecar line and the base indent come
off. A save puts them back. When nothing was typed and nobody else changed the script, all that is
stored stays as it is.

## Main definitions

* `Event.Lawful` — others store lines that hold no line feed.
* `Editor.Opening` — where in a run a statement was opened that is open at its end.

## Main statements

* `Session.text_ofExcerpt` — what a session was opened with is written for its own text.
* `unbroken_run` — no stored line holds a line feed, after every run.
* `exists_opening` — an open statement was opened somewhere in the run.
* `save_unchanged` — a save of what was opened leaves the script as it was.
-/

namespace StoryScript

/-! ## The text that is written -/

section

variable {node excerpt : String} {entry : Entry} {readOnly : Bool} {viewport : Viewport}

theorem Session.metadata_ofExcerpt :
    (ofExcerpt node entry excerpt readOnly viewport).metadata = (Sidecar.split excerpt).1 := by
  unfold ofExcerpt
  split
  next split => rw [split]

theorem Session.sidecar_ofExcerpt :
    (ofExcerpt node entry excerpt readOnly viewport).sidecar = Sidecar.style? excerpt := by
  unfold ofExcerpt
  split
  dsimp only

/-- The body of a session gets back the indent that was taken off it. -/
theorem Session.indented_ofExcerpt :
    let s := ofExcerpt node entry excerpt readOnly viewport
    s.indented s.body = (Sidecar.split excerpt).2 := by
  unfold ofExcerpt
  obtain ⟨metadata, body⟩ := Sidecar.split excerpt
  have back := Text.restoreIndent_stripIndent body
  rcases Text.stripIndent_cases body with ⟨-, kept⟩ | ⟨-, fault, -, kept⟩ | ⟨-, -, stripped⟩
  · simp [indented, kept]
  · simp [indented, kept]
  · have taken : (Text.stripIndent body).info.stripped = true := by rw [stripped]
    simp [indented, taken, back]

/-- Tidy lines are written when a session that was opened with them is saved with its own body and
notes. -/
theorem Session.text_ofExcerpt {lines : List String} (ne : lines ≠ [])
    (unbroken : ∀ l ∈ lines, Text.Unbroken l) (tidy : Sidecar.Tidy lines) {s : Session}
    (session : s = ofExcerpt node entry (Text.unlines lines) readOnly viewport)
    {q : SaveRequest} (body : q.body = s.body) (metadata : q.metadata = s.metadata) :
    s.text q = Text.unlines lines := by
  have indented : s.indented s.body = (Sidecar.split (Text.unlines lines)).2 := by
    rw [session]
    exact indented_ofExcerpt
  have notes : s.metadata = (Sidecar.split (Text.unlines lines)).1 := by
    rw [session, metadata_ofExcerpt]
  have style : s.sidecar = Sidecar.style? (Text.unlines lines) := by
    rw [session, sidecar_ofExcerpt]
  simp only [text, body, metadata, indented, notes, sidecarStyle, style]
  exact Sidecar.attach_split ne unbroken tidy _

end

theorem Session.linesIn_ne_nil {s : Session} {lines : List String}
    (forward : s.startLine ≤ s.endLine) (inside : s.endLine < lines.length) :
    s.linesIn lines ≠ [] := by
  refine List.ne_nil_of_length_pos ?_
  rw [linesIn, Text.length_extract inside]
  omega

/-- Storing what is stored already changes no content. -/
theorem Store.content?_put_self {s : Store} {script : String} {d : Text.Document}
    (found : s.scripts.get? script = some d) (name : String) :
    (⟨s.scripts.put script d⟩ : Store).content? name = s.content? name := by
  rw [content?, content?, Table.get?_put]
  split
  · next same => rw [same, found]
  · rfl

/-- Scripts with the same text have the same lines in a range whose last line is not empty. -/
theorem Session.linesIn_eq_of_toString_eq {s : Session} {d d' : Text.Document}
    (unbroken : ∀ l ∈ d.lines, Text.Unbroken l) (unbroken' : ∀ l ∈ d'.lines, Text.Unbroken l)
    (same : d.toString = d'.toString) (forward : s.startLine ≤ s.endLine)
    (inside : s.endLine < d.lines.length) (last : (s.linesIn d.lines).getLast? ≠ some "") :
    s.endLine < d'.lines.length ∧ s.linesIn d'.lines = s.linesIn d.lines ∧
      d'.lines[s.endLine]? ≠ some "" := by
  have present : d.lines[s.endLine]? = some d.lines[s.endLine] := List.getElem?_eq_getElem inside
  have text : d.lines[s.endLine] ≠ "" := by
    rw [linesIn, Text.extract_eq_concat forward present, List.getLast?_concat] at last
    exact fun empty => last (congrArg some empty)
  have front := Text.Document.take_eq_of_toString_eq unbroken unbroken' same present text
  have present' : d'.lines[s.endLine]? = some d.lines[s.endLine] := by
    rw [← present, Text.getElem?_eq_of_take_eq front]
  refine ⟨(List.getElem?_eq_some_iff.1 present').1, ?_, ?_⟩
  · rw [linesIn, linesIn, List.extract_eq_take_drop, List.extract_eq_take_drop, ← List.drop_take,
      ← List.drop_take, front]
  · rw [present']
    exact fun empty => text (Option.some.inj empty)

namespace Editor

variable {e : Editor} {w : Shared} {r : Request} {o : Outcome Answer} {x : Editor × Shared}
  {events : List Event} {s : Session}

/-! ## Runs over lines without line feeds -/

/-- No request stores a line that holds a line feed. -/
theorem Exit.unbroken (exit : Exit e w r o) (h : w.store.Unbroken) : o.2.2.store.Unbroken := by
  cases exit with
  | saveStale stage fault write | saveReloaded stage fault write
  | savePatched stage fault write => exact Store.unbroken_writeRange h write
  | insertedNothing stage fresh known write | insertedStale stage fresh known write
  | inserted stage fresh known write => exact Store.unbroken_insertLines h write
  | _ => exact h

end Editor

/-- What others store are lines without line feeds. -/
def Event.Lawful (ev : Event) : Prop :=
  match ev with
  | .store stored => stored.Unbroken
  | _ => True

namespace Editor

variable {e : Editor} {w : Shared} {r : Request} {o : Outcome Answer} {x : Editor × Shared}
  {events : List Event} {s : Session}

theorem unbroken_run (start : x.2.store.Unbroken) (lawful : ∀ ev ∈ events, ev.Lawful) :
    (run x events).2.store.Unbroken := by
  refine run_induction (P := fun x => x.2.store.Unbroken) start fun x h ev mem => ?_
  cases ev with
  | ask request => exact (exit_handle x.1 x.2 request).unbroken h
  | store store => exact lawful _ mem
  | parser | lockFault | pan | lock => exact h

theorem script_run (x : Editor × Shared) (events : List Event) :
    (run x events).1.script = x.1.script := by
  refine run_induction (P := fun y => y.1.script = x.1.script) rfl fun y h ev _ => ?_
  cases ev with
  | ask request => exact (exit_handle y.1 y.2 request).setup.script.trans h
  | store | parser | lockFault | pan | lock => exact h

/-! ## Where a statement was opened -/

/-- Where in a run a session was opened. -/
structure Opening (x : Editor × Shared) (events : List Event) (s : Session) where
  /-- What happened before it was opened. -/
  before : List Event
  node : String
  /-- What happened since. -/
  since : List Event
  split : events = before ++ .ask (.beginEdit node) :: since
  opened : ((run x before).1.handle (run x before).2 (.beginEdit node)).1 = .ok (.opened s)

/-- One more event. -/
def Opening.extend (o : Opening x events s) (ev : Event) : Opening x (events ++ [ev]) s where
  before := o.before
  node := o.node
  since := o.since ++ [ev]
  split := by simp [o.split]
  opened := o.opened

/-- When nothing is open at first, a statement that is open was opened in the run. -/
theorem exists_opening (closed : x.1.stage.session? = none)
    (isOpen : (run x events).1.stage.session? = some s) : Nonempty (Opening x events s) := by
  induction events using List.reverseRecOn with
  | nil => simp [run, closed] at isOpen
  | append_singleton events ev ih =>
    have last : run x (events ++ [ev]) = happen (run x events) ev := by simp [run]
    rw [last] at isOpen
    cases ev with
    | ask request =>
      rcases (exit_handle _ _ request).session isOpen with ⟨-, node, rfl, opened⟩ | ⟨before, -⟩
      · exact ⟨events, node, [], by simp, opened⟩
      · obtain ⟨o⟩ := ih before
        exact ⟨o.extend _⟩
    | store | parser | lockFault | pan | lock =>
      obtain ⟨o⟩ := ih isOpen
      exact ⟨o.extend _⟩

/-- What was stored when the statement was opened. -/
def Opening.stored (o : Opening x events s) : Store :=
  (run x o.before).2.store

theorem Opening.unbroken_stored (o : Opening x events s) (start : x.2.store.Unbroken)
    (lawful : ∀ ev ∈ events, ev.Lawful) : o.stored.Unbroken :=
  unbroken_run start fun ev mem => lawful ev (o.split ▸ List.mem_append_left _ mem)

/-- A session was opened with the lines of its range. -/
theorem Opening.spec (o : Opening x events s) :
    ∃ d, o.stored.scripts.get? x.1.script = some d ∧ s.startLine ≤ s.endLine ∧
      s.endLine < d.lines.length ∧ ∃ entry viewport,
        s = .ofExcerpt o.node entry (Text.unlines (s.linesIn d.lines)) s.readOnly viewport := by
  have exit := exit_handle (run x o.before).1 (run x o.before).2 (.beginEdit o.node)
  obtain ⟨⟨entry, excerpt, viewport, read, session⟩, -⟩ := exit.opening o.opened
  obtain ⟨d, found, extracted⟩ := Store.readRange_eq_ok_iff.1 read
  obtain ⟨⟨forward, inside⟩, rfl⟩ := Text.extract_eq_ok_iff.1 extracted
  rw [script_run] at found
  have first : s.startLine = entry.startLine := by rw [session]; simp
  have last : s.endLine = entry.endLine := by rw [session]; simp
  refine ⟨d, found, ?_, ?_, entry, viewport, ?_⟩
  · rwa [first, last]
  · rwa [last]
  · rwa [Session.linesIn, first, last]

/-! ## Saving what was opened -/

/-- A save that is allowed and writes as many lines as there were stores what it writes. It
succeeds, unless a refresh is due and fails. -/
theorem Exit.save_same {v : View} {q : SaveRequest} {store : Store} {written : Text.Written}
    (exit : Exit e w (.save q) o) (stage : e.stage = .editing v s)
    (sound : e.saveFault? s q = none)
    (write : w.store.writeRange e.script s.startLine s.endLine (s.text q) = .ok (store, written))
    (same : written.lineDelta = 0) :
    o.2.2.store = store ∧ ((∃ outcome, o.1 = .ok (.saved outcome) ∧ outcome.write = written) ∨
      e.pending = true ∧ (∃ err, o.1 = .error err) ∧ ∀ v, ¬ e.Reads store v) := by
  have this_session {v' : View} {s' : Session} (stage' : e.stage = .editing v' s') : s' = s :=
    (Stage.editing.inj (stage'.symm.trans stage)).2
  cases exit with
  | refused refused => simp [stage, Stage.allows] at refused
  | saveBlocked stage' fault =>
    obtain rfl := this_session stage'
    simp [sound] at fault
  | unwritten stage' fault write' =>
    obtain rfl := this_session stage'
    simp [write] at write'
  | saveStale stage' fault write' due reload =>
    obtain rfl := this_session stage'
    obtain ⟨rfl, rfl⟩ := Prod.mk.inj (Except.ok.inj (write'.symm.trans write))
    refine ⟨rfl, .inr ⟨due.resolve_left fun moved => moved same, ⟨_, rfl⟩, fun v => ?_⟩⟩
    exact not_reads_of_reload reload
  | saveReloaded stage' fault write' due reload =>
    obtain rfl := this_session stage'
    obtain ⟨rfl, rfl⟩ := Prod.mk.inj (Except.ok.inj (write'.symm.trans write))
    exact ⟨rfl, .inl ⟨_, rfl, rfl⟩⟩
  | savePatched stage' fault write' =>
    obtain rfl := this_session stage'
    obtain ⟨rfl, rfl⟩ := Prod.mk.inj (Except.ok.inj (write'.symm.trans write))
    exact ⟨rfl, .inl ⟨_, rfl, rfl⟩⟩

theorem saveFault?_override {q : SaveRequest} (writable : s.readOnly = false)
    (override : q.overrideIndent = true) : e.saveFault? s q = none := by
  unfold saveFault?
  rw [writable, override]
  split
  · contradiction
  · split
    · simp [Text.IndentPolicy.permits]
    · rfl

/-- A statement is open that was opened with its lock. If the script has the text that it had then,
and the lines that were shown are tidy, a save of what was opened, told to go ahead, leaves all that
is stored as it is, whatever the indent and the line endings are, and no line moves. It succeeds,
unless somebody told of a change and the script can no longer be read. -/
theorem save_unchanged (script : String) (config : Config) (me : Participant) (parser : Parser)
    (w : Shared) (unbroken : w.store.Unbroken) (events : List Event)
    (lawful : ∀ ev ∈ events, ev.Lawful) (s : Session)
    (isOpen : (run (new script config me parser, w) events).1.stage.session? = some s)
    (writable : s.readOnly = false) :
    let x := run (new script config me parser, w) events
    Nonempty (Opening (new script config me parser, w) events s) ∧
      ∀ o : Opening (new script config me parser, w) events s,
        x.2.store.content? script = o.stored.content? script →
        (∀ lines, o.stored.lines? script = some lines → Sidecar.Tidy (s.linesIn lines)) →
        ∀ focus, ∃ store written,
          let q : SaveRequest := ⟨s.body, s.metadata, true, focus⟩
          x.2.store.writeRange script s.startLine s.endLine (s.text q) = .ok (store, written) ∧
            (x.1.handle x.2 (.save q)).2.2.store = store ∧ written.lineDelta = 0 ∧
            (∀ name, store.content? name = x.2.store.content? name) ∧
            ((∃ outcome, (x.1.handle x.2 (.save q)).1 = .ok (.saved outcome) ∧
                outcome.write = written) ∨
              x.1.pending = true ∧ (∃ err, (x.1.handle x.2 (.save q)).1 = .error err) ∧
                ∀ v, ¬ x.1.Reads store v) := by
  intro x
  refine ⟨exists_opening rfl isOpen, fun o same tidy focus => ?_⟩
  obtain ⟨d, found, forward, inside, entry, viewport, session⟩ := o.spec
  change o.stored.scripts.get? script = some d at found
  obtain ⟨v, stage⟩ := Stage.exists_view_of_session? isOpen
  have tidy_d : Sidecar.Tidy (s.linesIn d.lines) := tidy _ (by simp [Store.lines?, found])
  -- the script is still there, and its lines are those of then in the range of the session
  obtain ⟨d', found', text_eq⟩ : ∃ d', x.2.store.scripts.get? script = some d' ∧
      d'.toString = d.toString := by
    rw [Store.content?, Store.content?, found] at same
    exact Option.map_eq_some_iff.1 same
  have stored_now : x.2.store.Unbroken := unbroken_run unbroken lawful
  have unbroken_then : ∀ l ∈ d.lines, Text.Unbroken l := o.unbroken_stored unbroken lawful _ _ found
  obtain ⟨inside', lines_eq, last⟩ := Session.linesIn_eq_of_toString_eq unbroken_then
    (stored_now _ _ found') text_eq.symm forward inside tidy_d.last
  have text : s.text ⟨s.body, s.metadata, true, focus⟩ =
      Text.unlines (d'.lines.extract s.startLine (s.endLine + 1)) := by
    refine (Session.text_ofExcerpt ?_ ?_ tidy_d session rfl rfl).trans ?_
    · exact Session.linesIn_ne_nil forward inside
    · exact fun l mem => unbroken_then l (Text.mem_of_mem_extract mem)
    · rw [← lines_eq, Session.linesIn]
  have write := Store.writeRange_extract stored_now found' forward inside'
  rw [if_neg last, ← text] at write
  have exit := exit_handle x.1 x.2 (.save ⟨s.body, s.metadata, true, focus⟩)
  have script_eq : x.1.script = script := script_run _ _
  obtain ⟨stored, answer⟩ := exit.save_same stage (saveFault?_override writable rfl)
    (by rw [script_eq]; exact write) rfl
  exact ⟨_, _, write, stored, rfl, Store.content?_put_self found', answer⟩

/-- A statement with a note, carriage returns, a line of white space and a line that stands less far
in. It is saved as it was opened, and the script stays as it was. -/
theorem save_unchanged_mixed_lines :
    let lines := ["label a:\r", "    # @node tag=\"x\"\r", "    b\r", "\t\r", " c\r"]
    let w : Shared := { store := ({} : Store).put "s" (Text.unlines lines) }
    let events : List Event := [.ask .load, .ask (.beginEdit "a-0")]
    let x := run (new "s" {} 0 outline, w) events
    w.store.Unbroken ∧ (∀ ev ∈ events, ev.Lawful) ∧ ∃ s, x.1.stage.session? = some s ∧
      s.readOnly = false ∧ s.indent.error.isSome ∧ s.sidecar = some ⟨"    ", true⟩ ∧
      Sidecar.Tidy (s.linesIn lines) ∧
      let saved := x.1.handle x.2 (.save ⟨s.body, s.metadata, true, none⟩)
      (∃ outcome, saved.1 = .ok (.saved outcome) ∧ outcome.write.lineDelta = 0) ∧
        saved.2.2.store.content? "s" = some (Text.unlines lines) := by
  intro lines w events x
  have unbroken : w.store.Unbroken := Store.unbroken_put Store.unbroken_empty
  have lawful : ∀ ev ∈ events, ev.Lawful := by simp [events, Event.Lawful]
  obtain ⟨fields, fresh, content, content', stored⟩ : (x.1.stage.session?.map fun s =>
      (s.readOnly, s.indent.error.isSome, s.sidecar, s.startLine, s.endLine)) =
        some (false, true, some ⟨"    ", true⟩, 1, 4) ∧ x.1.pending = false ∧
      x.2.store.content? "s" = some (Text.unlines lines) ∧
      (run (new "s" {} 0 outline, w) [.ask .load]).2.store.content? "s" =
        some (Text.unlines lines) ∧
      (run (new "s" {} 0 outline, w) [.ask .load]).2.store.lines? "s" = some lines := by
    decide +kernel
  have saves := save_unchanged "s" {} 0 outline w unbroken events lawful
  have x_eq : run (new "s" {} 0 outline, w) events = x := rfl
  rw [x_eq] at saves
  clear_value x
  obtain ⟨s, isOpen, fields⟩ := Option.map_eq_some_iff.1 fields
  simp only [Prod.mk.injEq] at fields
  obtain ⟨writable, fault, sidecar, first, last⟩ := fields
  have range : s.linesIn lines = lines.extract 1 5 := by rw [Session.linesIn, first, last]
  have tidy : Sidecar.Tidy (s.linesIn lines) := by
    rw [range]
    refine ⟨by decide +kernel, ?_, ?_⟩
    · rintro _ rest m ⟨⟩ notes
      have written : (Sidecar.parse lines[1]).bind Sidecar.format = some "# @node tag=\"x\"" := by
        decide +kernel
      rw [show Sidecar.parse lines[1] = some m from notes] at written
      exact ⟨_, "\r", written, .inr rfl, by decide +kernel⟩
    · rintro _ second rest m ⟨⟩ -
      decide +kernel
  refine ⟨unbroken, lawful, s, isOpen, writable, fault, sidecar, tidy, ?_⟩
  obtain ⟨⟨o⟩, saves⟩ := saves s isOpen writable
  have once (before since : List Event) (node : String)
      (split : events = before ++ .ask (.beginEdit node) :: since) : before = [.ask .load] := by
    rcases before with _ | ⟨_, _ | ⟨_, _ | ⟨_, _⟩⟩⟩ <;> simp_all [events]
  have before := once o.before o.since o.node o.split
  rw [← before] at content' stored
  have tidy' (lines' : List String) (found : o.stored.lines? "s" = some lines') :
      Sidecar.Tidy (s.linesIn lines') := by
    obtain rfl : lines = lines' := Option.some.inj (stored.symm.trans found)
    exact tidy
  obtain ⟨store, written, -, stored', same, kept, answer⟩ :=
    saves o (content.trans content'.symm) tidy' none
  refine ⟨?_, ?_⟩
  · rcases answer with ⟨outcome, saved, write⟩ | ⟨due, -⟩
    · exact ⟨outcome, saved, write ▸ same⟩
    · simp [fresh] at due
  · rw [stored', kept, content]

end Editor

end StoryScript
