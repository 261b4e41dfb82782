import StoryScript.Proofs.Notices

/-!
# When the parser fails for a while

A save that changes the number of lines reads the script anew. When the parser fails then, the
editor shows a script whose lines have moved, until the parser answers again. In the meantime nothing
is opened and nothing is written, and afterwards the next statement is opened just as if the parser
had never failed.

## Main definitions

* `Parser.Down`, `Event.WhileDown` — a parser that fails, and what can happen in the meantime.
* `Editor.Waits` — an editor with a refresh due, beside others that do nothing.
* `Editor.Alike` — editors that differ in the canvas only.

## Main statements

* `Exit.while_down` — every request fails and changes nothing.
* `waits_of_save`, `waits_run` — a save leaves the refresh due, and so does any run.
* `beginEdit_of_catchUp`, `beginEdit_alike`, `Waits.opens_alike` — a statement is opened in the same
  way late as early.
* `outage_leaves_no_trace` — the two runs, with and without a failing parser, end alike.
-/

namespace StoryScript

/-- The parser fails on every script. -/
def Parser.Down (f : Parser) : Prop :=
  ∀ source, ∃ reason, f source = .error reason

/-- What can happen while the parser fails: it fails for another reason, the user moves the canvas,
and the editor is asked for anything except other labels. -/
def Event.WhileDown : Event → Prop
  | .parser f => Parser.Down f
  | .ask (.setFilter _) => False
  | .ask _ | .pan _ => True
  | _ => False

namespace Editor

variable {e e' : Editor} {w : Shared} {store : Store} {r : Request} {o : Outcome Answer}
  {old v v' : View} {s : Session} {q : SaveRequest} {focus : Focus}

/-! ## Whether a script can be read -/

theorem not_reads_of_down (down : Parser.Down e.parser) : ¬ e.Reads store v := by
  rintro ⟨source, parsed, -, parse, -⟩
  obtain ⟨reason, fails⟩ := down source
  simp [fails] at parse

theorem Reads.unique (h : e.Reads store v) (h' : e.Reads store v') : v = v' := by
  obtain ⟨source, parsed, read, parse, drawn⟩ := h
  obtain ⟨source', parsed', read', parse', drawn'⟩ := h'
  grind

/-- What can be read is read. -/
theorem reload_of_reads (reads : e.Reads store v) (old : View) (focus : Focus) :
    ∃ focused e', e.reload store old focus = (.ok (v, focused), e') := by
  cases reloaded : e.reload store old focus with
  | mk result e' =>
    cases result with
    | error err => exact (not_reads_of_reload reloaded reads).elim
    | ok p =>
      obtain rfl : p.1 = v := (reload_ok reloaded).1.unique reads
      exact ⟨p.2, e', rfl⟩

theorem reload_of_down (down : Parser.Down e.parser) (store : Store) (old : View)
    (focus : Focus) :
    ∃ err k, e.reload store old focus =
      (.error err, { e with parses := k, stage := .ready old, pending := true }) := by
  cases reloaded : e.reload store old focus with
  | mk result e' =>
    cases result with
    | error err =>
      obtain ⟨k, rfl⟩ := reload_error reloaded
      exact ⟨err, k, rfl⟩
    | ok p => exact (not_reads_of_down down (reload_ok reloaded).1).elim

/-! ## While the parser fails -/

/-- With a refresh due and a parser that fails, every request fails and changes nothing, except
for the labels that are drawn. -/
theorem Exit.while_down (exit : Exit e w r o) (stage : e.stage = .ready old)
    (due : e.pending = true) (down : Parser.Down e.parser) (other : ∀ f, r ≠ .setFilter f) :
    (∃ err, o.1 = .error err) ∧ o.2.2 = w ∧ ∃ k, o.2.1 = { e with parses := k } := by
  have same {v : View} {k : Nat} (stage' : e.stage = .ready v) :
      { e with parses := k, stage := .ready v, pending := true } = { e with parses := k } := by
    rw [← stage', ← due]
  have unread {v v' : View} {e' : Editor} {P : Prop} (caught : e.catchUp w.store v = (.ok v', e')) :
      P := by
    obtain ⟨⟨-, v, reads, -⟩, -⟩ := refreshed_of_catchUp due caught
    exact (not_reads_of_down down reads).elim
  cases exit with
  | refused => exact ⟨⟨_, rfl⟩, rfl, e.parses, rfl⟩
  | loadFailed stage refresh =>
    obtain ⟨k, rfl⟩ := refresh_error refresh
    exact ⟨⟨_, rfl⟩, rfl, k, rfl⟩
  | loaded stage refresh => exact (not_reads_of_down down (refresh_ok refresh).1).elim
  | undrawn | filtered => exact (other _ rfl).elim
  | beginStale stage' stale | insertStale stage' stale =>
    obtain ⟨k, rfl⟩ := reload_error (catchUp_error stale).2
    exact ⟨⟨_, rfl⟩, rfl, k, same stage'⟩
  | changeStale stage' reload =>
    obtain ⟨k, rfl⟩ := reload_error reload
    exact ⟨⟨_, rfl⟩, rfl, k, same stage'⟩
  | changeApplied stage' reload => exact (not_reads_of_down down (reload_ok reload).1).elim
  | beginUnknown stage' fresh | beginUnread stage' fresh | opened stage' fresh
  | insertUnknown stage' fresh | uninserted stage' fresh | insertedNothing stage' fresh
  | insertedStale stage' fresh | inserted stage' fresh => exact unread fresh
  | changeIgnored stage' => simp [stage] at stage'
  | saveBlocked stage' | unwritten stage' | saveStale stage' | saveReloaded stage'
  | savePatched stage' | cancelStale stage' | cancelReloaded stage' | cancelled stage'
  | changeDeferred stage' => simp [stage] at stage'

/-- Some time after `e` and `w`: nothing was opened or stored, a refresh is due, and the parser
fails. -/
structure Waits (e : Editor) (w : Shared) (x : Editor × Shared) : Prop where
  setup : SameSetup { e with parser := x.1.parser } x.1
  filter : x.1.filter = e.filter
  stage : ∃ v, x.1.stage = .ready v
  due : x.1.pending = true
  down : Parser.Down x.1.parser
  shared : x.2 = w

theorem waits_happen {x : Editor × Shared} (waits : Waits e w x) {ev : Event}
    (whileDown : ev.WhileDown) : Waits e w (happen x ev) := by
  obtain ⟨⟨script, config, me, parser, lockFault⟩, filter, stage, due, down, shared⟩ := waits
  cases ev with
  | ask r =>
    obtain ⟨v, ready⟩ := stage
    have other (f : LabelFilter) : r ≠ .setFilter f := by
      rintro rfl
      exact whileDown
    obtain ⟨-, same, k, after⟩ := (exit_handle x.1 x.2 r).while_down ready due down other
    refine ⟨?_, ?_, ⟨v, ?_⟩, ?_, ?_, same.trans shared⟩ <;> rw [happen, after]
    exacts [⟨script, config, me, rfl, lockFault⟩, filter, ready, due, down]
  | parser f => exact ⟨⟨script, config, me, rfl, lockFault⟩, filter, stage, due, whileDown, shared⟩
  | pan => exact ⟨⟨script, config, me, parser, lockFault⟩, filter, stage, due, down, shared⟩
  | lockFault | store | lock => exact whileDown.elim

theorem waits_run {x : Editor × Shared} (waits : Waits e w x) {events : List Event}
    (whileDown : ∀ ev ∈ events, ev.WhileDown) : Waits e w (run x events) :=
  run_induction waits fun _ waits ev mem => waits_happen waits (whileDown ev mem)

/-! ## Saving with and without the parser -/

/-- A save that writes and changes the number of lines reads the script anew. -/
theorem Exit.save_moved {store : Store} {written : Text.Written} (exit : Exit e w (.save q) o)
    (stage : e.stage = .editing v s) (sound : e.saveFault? s q = none)
    (write : w.store.writeRange e.script s.startLine s.endLine (s.text q) = .ok (store, written))
    (moved : written.lineDelta ≠ 0) : ∃ result,
      e.reload store v (focusAfter s q) = (result, o.2.1) ∧
        o.2.2 = ⟨store, e.closeSession w.locks s⟩ := by
  have this_session {v' : View} {s' : Session} (stage' : e.stage = .editing v' s') :
      v' = v ∧ s' = s :=
    Stage.editing.inj (stage'.symm.trans stage)
  cases exit with
  | refused refused => simp [stage, Stage.allows] at refused
  | saveBlocked stage' fault =>
    obtain ⟨rfl, rfl⟩ := this_session stage'
    simp [sound] at fault
  | unwritten stage' fault write' =>
    obtain ⟨rfl, rfl⟩ := this_session stage'
    simp [write] at write'
  | saveStale stage' fault write' due reload | saveReloaded stage' fault write' due reload =>
    obtain ⟨rfl, rfl⟩ := this_session stage'
    obtain ⟨rfl, rfl⟩ := Prod.mk.inj (Except.ok.inj (write'.symm.trans write))
    exact ⟨_, reload, rfl⟩
  | savePatched stage' fault write' same =>
    obtain ⟨rfl, rfl⟩ := this_session stage'
    obtain ⟨rfl, rfl⟩ := Prod.mk.inj (Except.ok.inj (write'.symm.trans write))
    exact (moved same).elim

section

variable {written : Text.Written} (stage : e.stage = .editing v s)
  (allowed : e.saveFault? s q = none)
  (write : w.store.writeRange e.script s.startLine s.endLine (s.text q) = .ok (store, written))
  (moved : written.lineDelta ≠ 0)

include stage allowed write moved

/-- When the parser answers, the save reads what it stored. -/
theorem save_of_reads {answering : Parser} {new : View}
    (reads : Reads { e with parser := answering } store new) : ∃ focused e',
      reload { e with parser := answering } store v (focusAfter s q) = (.ok (new, focused), e') ∧
        run (e, w) [.parser answering, .ask (.save q)] =
          (e', ⟨store, e.closeSession w.locks s⟩) := by
  obtain ⟨result, reloaded, shared⟩ := (exit_handle { e with parser := answering } w
    (.save q)).save_moved stage allowed write moved
  obtain ⟨focused, e', reload_eq⟩ := reload_of_reads reads v (focusAfter s q)
  exact ⟨focused, e', reload_eq,
    Prod.ext (Prod.mk.inj (reloaded.symm.trans reload_eq)).2 shared⟩

/-- When the parser fails, the save stores the same and waits. -/
theorem waits_of_save {failing : Parser} (down : Parser.Down failing) :
    Waits e ⟨store, e.closeSession w.locks s⟩ (run (e, w) [.parser failing, .ask (.save q)]) := by
  obtain ⟨result, reloaded, shared⟩ := (exit_handle { e with parser := failing } w
    (.save q)).save_moved stage allowed write moved
  obtain ⟨err, k, down_eq⟩ := reload_of_down (e := { e with parser := failing }) down store v
    (focusAfter s q)
  have after : (run (e, w) [.parser failing, .ask (.save q)]).1 =
      { e with parser := failing, parses := k, stage := .ready v, pending := true } :=
    (Prod.mk.inj (reloaded.symm.trans down_eq)).2
  refine ⟨?_, ?_, ⟨v, ?_⟩, ?_, ?_, shared⟩ <;> simp only [after]
  · exact ⟨rfl, rfl, rfl, rfl, rfl⟩
  · exact down

end

/-! ## Opening a statement early or late -/

/-- Editors that differ in where the canvas stands and how often the parser was called, and in
nothing else. -/
structure Alike (e e' : Editor) : Prop where
  setup : e.SameSetup e'
  filter : e'.filter = e.filter
  pending : e'.pending = e.pending
  stage : e'.stage.name = e.stage.name
  view : e'.stage.view? = e.stage.view?
  session : e'.stage.session?.map Session.unplaced = e.stage.session?.map Session.unplaced
  picture : e'.canvas.graph = e.canvas.graph

/-- What is read anew is the same, wherever the canvas goes then. -/
theorem alike_of_reload {e₁ e₁' : Editor} {old' : View} {focus' : Focus}
    {focused focused' : Option String} (setup : e.SameSetup e') (filter : e'.filter = e.filter)
    (reloaded : e.reload store old focus = (.ok (v, focused), e₁))
    (reloaded' : e'.reload store old' focus' = (.ok (v, focused'), e₁')) :
    e₁.Alike e₁' ∧ e₁.stage = .ready v ∧ e₁'.stage = .ready v ∧ e₁.pending = false := by
  obtain ⟨-, -, rfl⟩ := reload_ok reloaded
  obtain ⟨-, -, rfl⟩ := reload_ok reloaded'
  obtain ⟨script, config, me, parser, lockFault⟩ := setup
  refine ⟨⟨⟨script, config, me, parser, lockFault⟩, filter, rfl, rfl, rfl, rfl, ?_⟩, rfl, rfl, rfl⟩
  simp

/-- A statement is opened as if the refresh that was due had been done before. -/
theorem beginEdit_of_catchUp (stage : e.stage = .ready old)
    (caught : e.catchUp w.store old = (.ok v, e')) (node : String) :
    e.beginEdit w node = e'.beginEdit w node := by
  obtain ⟨-, stage', fresh⟩ := catchUp_setup caught stage
  have caught' : e'.catchUp w.store v = (.ok v, e') := by simp [catchUp, fresh]
  simp only [beginEdit, stage, stage', caught, caught']

/-- Editors that are alike open a statement alike. -/
theorem beginEdit_alike (alike : e.Alike e') (stage : e.stage = .ready v)
    (stage' : e'.stage = .ready v) (fresh : e.pending = false) (node : String) :
    (e.beginEdit w node).2.1.Alike (e'.beginEdit w node).2.1 ∧
      (e'.beginEdit w node).2.2 = (e.beginEdit w node).2.2 ∧
      (e'.beginEdit w node).1.map Session.unplaced =
        (e.beginEdit w node).1.map Session.unplaced := by
  have caught : e.catchUp w.store v = (.ok v, e) := by simp [catchUp, fresh]
  have caught' : e'.catchUp w.store v = (.ok v, e') := by simp [catchUp, alike.pending, fresh]
  have read_eq : w.store.readRange e'.script = w.store.readRange e.script := by
    rw [alike.setup.script]
  have tryLock_eq : e'.tryLock w.locks node = e.tryLock w.locks node := by
    simp only [tryLock, alike.setup.lockFault, alike.setup.me]
  have unlock_eq (locks : LockTable) : e'.unlock locks node = e.unlock locks node := by
    simp only [unlock, alike.setup.lockFault, alike.setup.me]
  have announce_eq (locks : LockTable) : e'.announce locks node = e.announce locks node := by
    simp only [announce, alike.setup.lockFault, alike.setup.me]
  simp only [beginEdit, stage, stage', caught, caught', read_eq, tryLock_eq, unlock_eq, announce_eq]
  cases v.lineMap.entry? node with
  | none => exact ⟨alike, rfl, rfl⟩
  | some entry =>
    dsimp only
    cases w.store.readRange e.script entry.startLine entry.endLine with
    | error err => exact ⟨alike, rfl, rfl⟩
    | ok excerpt =>
      have opened := Session.unplaced_ofExcerpt node excerpt entry
        (!(e.tryLock w.locks node).1) e'.canvas.viewport e.canvas.viewport
      obtain ⟨⟨script, config, me, parser, lockFault⟩, filter, pending, -, -, -, picture⟩ := alike
      dsimp only
      refine ⟨⟨⟨script, config, me, parser, lockFault⟩, filter, pending, ?_, rfl, ?_, picture⟩,
        rfl, ?_⟩
      · simp [Stage.name]
      · exact congrArg some opened
      · exact congrArg Except.ok opened

/-- When the parser is back after some waiting, a statement is opened as by an editor that read the
script before. -/
theorem Waits.opens_alike {x : Editor × Shared} (waits : Waits e w x) {answering : Parser}
    {new : View} (reads : Reads { e with parser := answering } w.store new)
    {focused : Option String}
    (early : reload { e with parser := answering } w.store old focus = (.ok (new, focused), e'))
    (node : String) :
    let back : Editor := { x.1 with parser := answering }
    (e'.beginEdit w node).2.1.Alike (back.beginEdit w node).2.1 ∧
      (back.beginEdit w node).2.2 = (e'.beginEdit w node).2.2 ∧
      (back.beginEdit w node).1.map Session.unplaced =
        (e'.beginEdit w node).1.map Session.unplaced := by
  intro back
  obtain ⟨⟨script, config, me, -, lockFault⟩, filter, ⟨v, ready⟩, due, -, -⟩ := waits
  have setup : SameSetup { e with parser := answering } back := ⟨script, config, me, rfl, lockFault⟩
  have ready : back.stage = .ready v := ready
  have due : back.pending = true := due
  -- the refresh that is due reads what was read before
  obtain ⟨focused', e'', late⟩ := reload_of_reads ((setup.reads_iff filter).2 reads) v
    (.keep back.canvas.viewport)
  have caught : back.catchUp w.store v = (.ok new, e'') := by simp [catchUp, due, late]
  rw [beginEdit_of_catchUp ready caught]
  obtain ⟨alike, stage', stage'', fresh⟩ := alike_of_reload setup filter early late
  exact beginEdit_alike alike stage' stage'' fresh node

/-! ## The two runs -/

/-- A statement is open, and its save is allowed, writes, and changes the number of lines. In one run
the parser reads what is stored then. In the other it fails, whatever it is asked for, and comes back
later. In between every request fails and leaves all that is stored and all locks as they are. Once
the parser is back, any statement is opened as in the first run: with the same answer, up to what the
canvas showed, and the same tree, text, index and pictures, stored scripts and locks. -/
theorem outage_leaves_no_trace (e : Editor) (w : Shared) (v : View) (s : Session) (q : SaveRequest)
    (stage : e.stage = .editing v s) (allowed : e.saveFault? s q = none) (store : Store)
    (written : Text.Written)
    (write : w.store.writeRange e.script s.startLine s.endLine (s.text q) = .ok (store, written))
    (moved : written.lineDelta ≠ 0) (answering failing : Parser) (new : View)
    (reads : Reads { e with parser := answering } store new) (down : Parser.Down failing)
    (outage : List Event) (whileDown : ∀ ev ∈ outage, ev.WhileDown) (node : String) :
    let one := run (e, w) [.parser answering, .ask (.save q)]
    let two (events : List Event) := run (e, w) (.parser failing :: .ask (.save q) :: events)
    let back := happen (two outage) (.parser answering)
    (∀ before r after, outage = before ++ .ask r :: after →
      (∃ err, ((two before).1.handle (two before).2 r).1 = .error err) ∧
        ((two before).1.handle (two before).2 r).2.2 = (two before).2) ∧
      let o := one.1.handle one.2 (.beginEdit node)
      let o' := back.1.handle back.2 (.beginEdit node)
      o.2.1.Alike o'.2.1 ∧ o'.2.2 = o.2.2 ∧ o'.1.map Answer.unplaced = o.1.map Answer.unplaced := by
  intro one two back
  obtain ⟨focused, e', early, one_eq⟩ : ∃ focused e', _ ∧ one = (e', _) :=
    save_of_reads stage allowed write moved reads
  have waits (events : List Event) (part : ∀ ev ∈ events, ev ∈ outage) :
      Waits e ⟨store, e.closeSession w.locks s⟩ (two events) :=
    waits_run (waits_of_save stage allowed write moved down) fun ev mem =>
      whileDown ev (part ev mem)
  constructor
  · rintro before r after rfl
    obtain ⟨-, -, ⟨old, ready⟩, due, down, -⟩ := waits before fun ev mem => by simp [mem]
    have other (f : LabelFilter) : r ≠ .setFilter f := by
      rintro rfl
      exact whileDown (.ask (.setFilter f)) (by simp)
    obtain ⟨fails, same, -⟩ := (exit_handle (two before).1 (two before).2 r).while_down
      ready due down other
    exact ⟨fails, same⟩
  · have waited := waits outage fun ev mem => mem
    obtain ⟨alike, shared, opened⟩ := waited.opens_alike reads early node
    have back_eq : back = ({ (two outage).1 with parser := answering },
        ⟨store, e.closeSession w.locks s⟩) := Prod.ext rfl waited.shared
    rw [one_eq, back_eq]
    refine ⟨alike, shared, ?_⟩
    simp only [handle, Outcome.map, Answer.unplaced_opened, opened]

/-- Whether a save is accepted and changes the number of lines, and what it leaves can be read. -/
def movesLines (e : Editor) (store : Store) (q : SaveRequest) : Bool :=
  match e.stage with
  | .editing _ s => (e.saveFault? s q).isNone &&
    match store.writeRange e.script s.startLine s.endLine (s.text q) with
    | .ok (store, written) => written.lineDelta != 0 && (e.refresh store).1.isOk
    | .error _ => false
  | _ => false

theorem exists_of_movesLines {e : Editor} {store : Store} {q : SaveRequest}
    (moves : e.movesLines store q = true) :
    ∃ v s store' written new, e.stage = .editing v s ∧ e.saveFault? s q = none ∧
      store.writeRange e.script s.startLine s.endLine (s.text q) = .ok (store', written) ∧
      written.lineDelta ≠ 0 ∧ e.Reads store' new := by
  unfold movesLines at moves
  split at moves
  · next v s stage =>
    rw [Bool.and_eq_true, Option.isNone_iff_eq_none] at moves
    obtain ⟨allowed, moves⟩ := moves
    split at moves
    · next store' written write =>
      rw [Bool.and_eq_true, bne_iff_ne] at moves
      obtain ⟨moved, readable⟩ := moves
      cases refreshed : e.refresh store' with
      | mk result e' =>
        cases result with
        | error err => simp [refreshed, Except.isOk, Except.toBool] at readable
        | ok new =>
          exact ⟨v, s, store', written, new, stage, allowed, write, moved, (refresh_ok refreshed).1⟩
    · cases moves
  · cases moves

/-- One line became two and the canvas was to follow, the parser failed, and three requests failed
with it. When the parser is back, the refresh is still due, and the next statement is opened as if it
had been done at once. -/
theorem outage_leaves_no_trace_between_statements :
    let w : Shared := { store := ({} : Store).put "s" "label a:\n    one\n    two\n" }
    let x := run (new "s" {} 0 outline, w) [.ask .load, .ask (.beginEdit "a-0")]
    let q : SaveRequest := { body := "eins\nzwei", focus := some "a-1" }
    let one := run x [.parser outline, .ask (.save q)]
    let back := run x [.parser fun _ => .error "down", .ask (.save q), .ask (.beginEdit "a-1"),
      .parser fun _ => .error "still down", .ask (.insertAfter "a-0" "    drei"),
      .ask .scriptChanged, .parser outline]
    let o := one.1.handle one.2 (.beginEdit "a-1")
    let o' := back.1.handle back.2 (.beginEdit "a-1")
    one.1.pending = false ∧ back.1.pending = true ∧
      o.2.1.stage.session?.isSome ∧ o.2.1.Alike o'.2.1 ∧
      o'.2.2 = o.2.2 ∧ o'.1.map Answer.unplaced = o.1.map Answer.unplaced := by
  intro w x q one back o o'
  obtain ⟨fresh, due, opened⟩ : one.1.pending = false ∧ back.1.pending = true ∧
      o.2.1.stage.session?.isSome := by decide +kernel
  have accepted : ({ x.1 with parser := outline } : Editor).movesLines x.2.store q = true := by
    decide +kernel
  clear_value x
  obtain ⟨v, s, store, written, new, stage, allowed, write, moved, reads⟩ :=
    exists_of_movesLines accepted
  have no_trace := outage_leaves_no_trace x.1 x.2 v s q stage allowed store written write moved
    outline (fun _ => .error "down") new reads (fun _ => ⟨_, rfl⟩)
    [.ask (.beginEdit "a-1"), .parser fun _ => .error "still down",
      .ask (.insertAfter "a-0" "    drei"), .ask .scriptChanged]
    (by simp [Event.WhileDown, Parser.Down]) "a-1"
  exact ⟨fresh, due, opened, no_trace.2⟩

end Editor

end StoryScript
