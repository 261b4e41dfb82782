import StoryScript.Editing.Editor

/-!
# How an operation can end

Every operation of an editor may fail at several points, and each time it leaves another part of the
editor changed. The ways in which it can end are listed here once, each with its reason and with all
it leaves behind; what holds after every operation follows from the list.

## Main definitions

* `Editor.Reads` — a view is what reading the script anew gives.
* `Stage.allows` — which requests a stage admits.
* `Editor.SameSetup` — what no operation changes.
* `Editor.Exit` — the ways in which a request can end.

## Main statements

* `refresh_ok`, `reload_ok`, `catchUp_ok` and their counterparts for failure — what reading the
  script anew does to an editor.
* `exit_handle` — a request ends in one of the ways listed.
* `Exit.setup` — no request changes what an editor was set up with.
-/

namespace StoryScript

/-- Which requests a stage admits. -/
def Stage.allows : Stage → Request → Bool
  | _, .scriptChanged => true
  | .editing .., .save _ | .editing .., .cancel => true
  | .editing .., _ => false
  | _, .load => true
  | .ready _, .setFilter _ | .ready _, .beginEdit _ | .ready _, .insertAfter .. => true
  | _, _ => false

section

variable {stage : Stage} {v : View}

theorem Stage.view?_of_ready (h : stage = .ready v) : stage.view? = some v := by
  rw [h]
  rfl

theorem Stage.view?_of_editing {s : Session} (h : stage = .editing v s) :
    stage.view? = some v := by
  rw [h]
  rfl

theorem Stage.session?_of_ready (h : stage = .ready v) : stage.session? = none := by
  rw [h]
  rfl

theorem Stage.exists_view_of_session? {s : Session} (isOpen : stage.session? = some s) :
    ∃ v, stage = .editing v s := by
  cases stage with
  | idle | ready v => cases isOpen
  | editing v s' =>
    cases isOpen
    exact ⟨v, rfl⟩

end

namespace Editor

/-! ## Reading the script anew -/

section Reading

variable {e e' : Editor} {store : Store} {old v : View} {err : SyncError}

/-- The script can be read, parsed and drawn, and that gives the view. -/
def Reads (e : Editor) (store : Store) (v : View) : Prop :=
  ∃ source parsed, store.readAll e.script = .ok source ∧ e.parser source = .ok parsed ∧
    e.viewOf source parsed = .ok v

theorem viewOf_ok {source : String} {p : Parsed} (h : e.viewOf source p = .ok v) :
    v.tree = p.tree ∧ v.tree.layout e.config.layout e.filter = .ok v.graph ∧
      v.lineMap = .ofTree v.tree ∧ v.lines = Text.toLines source := by
  unfold viewOf at h
  split at h
  · cases h
  · next graph drawn =>
    cases h
    exact ⟨rfl, drawn, rfl, rfl⟩

theorem refresh_ok (h : e.refresh store = (.ok v, e')) :
    e.Reads store v ∧
      e' = { e with parses := e.parses + 1, canvas := e.canvas.render v.graph } := by
  unfold refresh at h
  split at h
  · cases h
  · next source read =>
    dsimp only at h
    split at h
    · cases h
    · next parsed parse =>
      split at h
      · cases h
      · next view drawn =>
        cases h
        exact ⟨⟨source, parsed, read, parse, drawn⟩, rfl⟩

/-- Only the count of parser calls tells that reading was tried. -/
theorem refresh_error (h : e.refresh store = (.error err, e')) :
    ∃ k, e' = { e with parses := k } := by
  unfold refresh at h
  split at h
  · cases h
    exact ⟨e.parses, rfl⟩
  · dsimp only at h
    split at h
    · cases h
      exact ⟨e.parses + 1, rfl⟩
    · split at h
      · cases h
        exact ⟨e.parses + 1, rfl⟩
      · cases h

theorem reload_ok {focus : Focus} {focused : Option String}
    (h : e.reload store old focus = (.ok (v, focused), e')) :
    e.Reads store v ∧ focused = (focus.apply v (e.canvas.render v.graph)).1 ∧
      e' = { e with
        parses := e.parses + 1, stage := .ready v, pending := false
        canvas := (focus.apply v (e.canvas.render v.graph)).2 } := by
  unfold reload at h
  split at h
  · cases h
  · next refreshed =>
    obtain ⟨reads, rfl⟩ := refresh_ok refreshed
    cases h
    exact ⟨reads, rfl, rfl⟩

theorem reload_error {focus : Focus} (h : e.reload store old focus = (.error err, e')) :
    ∃ k, e' = { e with parses := k, stage := .ready old, pending := true } := by
  unfold reload at h
  split at h
  · next refreshed =>
    obtain ⟨k, rfl⟩ := refresh_error refreshed
    cases h
    exact ⟨k, rfl⟩
  · cases h

/-- Catching up succeeds when no refresh is due, or when the one that is due succeeds. -/
theorem catchUp_ok (h : e.catchUp store old = (.ok v, e')) :
    (e.pending = false ∧ v = old ∧ e' = e) ∨
      (e.pending = true ∧
        ∃ focused, e.reload store old (.keep e.canvas.viewport) = (.ok (v, focused), e')) := by
  unfold catchUp at h
  split at h
  · next due =>
    split at h
    · cases h
    · next reloaded =>
      cases h
      exact .inr ⟨due, _, reloaded⟩
  · next fresh =>
    cases h
    exact .inl ⟨by simpa using fresh, rfl, rfl⟩

theorem catchUp_error (h : e.catchUp store old = (.error err, e')) :
    e.pending = true ∧ e.reload store old (.keep e.canvas.viewport) = (.error err, e') := by
  unfold catchUp at h
  split at h
  · next due =>
    split at h
    · next failed =>
      cases h
      exact ⟨due, failed⟩
    · cases h
  · cases h

/-- The second editor is the first at another time: it was set up with the same. -/
structure SameSetup (e e' : Editor) : Prop where
  script : e'.script = e.script
  config : e'.config = e.config
  me : e'.me = e.me
  parser : e'.parser = e.parser
  lockFault : e'.lockFault = e.lockFault

theorem SameSetup.refl (e : Editor) : e.SameSetup e := ⟨rfl, rfl, rfl, rfl, rfl⟩

theorem SameSetup.trans {e'' : Editor} (h : e.SameSetup e') (h' : e'.SameSetup e'') :
    e.SameSetup e'' :=
  ⟨h'.script.trans h.script, h'.config.trans h.config, h'.me.trans h.me,
    h'.parser.trans h.parser, h'.lockFault.trans h.lockFault⟩

/-- Whether it succeeds or not, reading the script anew ends in a stage without a session. -/
theorem reload_setup {focus : Focus} {result : Except SyncError (View × Option String)}
    (h : e.reload store old focus = (result, e')) :
    e.SameSetup e' ∧ ∃ v, e'.stage = .ready v := by
  cases result with
  | error err =>
    obtain ⟨k, rfl⟩ := reload_error h
    exact ⟨⟨rfl, rfl, rfl, rfl, rfl⟩, old, rfl⟩
  | ok p =>
    obtain ⟨-, -, rfl⟩ := reload_ok h
    exact ⟨⟨rfl, rfl, rfl, rfl, rfl⟩, p.1, rfl⟩

theorem catchUp_setup (h : e.catchUp store old = (.ok v, e')) (stage : e.stage = .ready old) :
    e.SameSetup e' ∧ e'.stage = .ready v ∧ e'.pending = false := by
  obtain ⟨fresh, rfl, rfl⟩ | ⟨-, focused, reloaded⟩ := catchUp_ok h
  · exact ⟨.refl _, stage, fresh⟩
  · obtain ⟨-, -, rfl⟩ := reload_ok reloaded
    exact ⟨⟨rfl, rfl, rfl, rfl, rfl⟩, rfl, rfl⟩

end Reading

/-! ## The ways to end -/

/-- The canvas after a save that read nothing anew. -/
def focused (e : Editor) : Option String → Option String × Canvas
  | none => (none, e.canvas)
  | some id => (if (e.canvas.focus id).1 then some id else none, (e.canvas.focus id).2)

/-- Where the canvas is to go when the script is read anew after a save. -/
def focusAfter (s : Session) (q : SaveRequest) : Focus :=
  match q.focus with
  | some id => .node id
  | none => .keep s.viewport

/-- The lines of a view after a save that left their number as it was. -/
def patched (v : View) (s : Session) (q : SaveRequest) : List String :=
  match Text.splice v.lines s.startLine s.endLine (s.text q) with
  | .ok (lines, _) => lines
  | .error _ => v.lines

/-- The ways in which a request to the editor `e` can end, `w` being what others see. -/
inductive Exit (e : Editor) (w : Shared) : Request → Outcome Answer → Prop where
  | refused {r : Request} (stage : e.stage.allows r = false) :
      Exit e w r (.error (.invalidState e.stage.name), e, w)
  | loadFailed {err e'} (stage : e.stage.session? = none)
      (refresh : e.refresh w.store = (.error err, e')) : Exit e w .load (.error err, e', w)
  | loaded {v e'} (stage : e.stage.session? = none)
      (refresh : e.refresh w.store = (.ok v, e')) :
      Exit e w .load
        (.ok (.drawn v.graph), { e' with stage := .ready v, canvas := e'.canvas.fitAll }, w)
  | undrawn {v filter err} (stage : e.stage = .ready v)
      (layout : v.tree.layout e.config.layout filter = .error err) :
      Exit e w (.setFilter filter) (.error (.layout err), e, w)
  | filtered {v filter graph} (stage : e.stage = .ready v)
      (layout : v.tree.layout e.config.layout filter = .ok graph) :
      Exit e w (.setFilter filter) (.ok (.drawn graph), { e with
        filter, stage := .ready { v with graph }, canvas := (e.canvas.render graph).fitAll }, w)
  | beginStale {v node err e'} (stage : e.stage = .ready v)
      (stale : e.catchUp w.store v = (.error err, e')) :
      Exit e w (.beginEdit node) (.error err, e', w)
  | beginUnknown {v v' node e'} (stage : e.stage = .ready v)
      (fresh : e.catchUp w.store v = (.ok v', e')) (unknown : v'.lineMap.entry? node = none) :
      Exit e w (.beginEdit node) (.error (.nodeNotFound node), e', w)
  | beginUnread {v v' node e' entry err} (stage : e.stage = .ready v)
      (fresh : e.catchUp w.store v = (.ok v', e')) (known : v'.lineMap.entry? node = some entry)
      (unread : w.store.readRange e'.script entry.startLine entry.endLine = .error err) :
      Exit e w (.beginEdit node) (.error (.store err), e', { w with
        locks := if (e'.tryLock w.locks node).1 then e'.unlock (e'.tryLock w.locks node).2 node
          else (e'.tryLock w.locks node).2 })
  | opened {v v' node e' entry excerpt} (stage : e.stage = .ready v)
      (fresh : e.catchUp w.store v = (.ok v', e')) (known : v'.lineMap.entry? node = some entry)
      (read : w.store.readRange e'.script entry.startLine entry.endLine = .ok excerpt)
      (s : Session) (session : s = Session.ofExcerpt node entry excerpt
        (!(e'.tryLock w.locks node).1) e'.canvas.viewport) :
      Exit e w (.beginEdit node) (.ok (.opened s), { e' with stage := .editing v' s }, { w with
        locks := if (e'.tryLock w.locks node).1 then e'.announce (e'.tryLock w.locks node).2 node
          else (e'.tryLock w.locks node).2 })
  | saveBlocked {v s q err} (stage : e.stage = .editing v s)
      (fault : e.saveFault? s q = some err) : Exit e w (.save q) (.error err, e, w)
  | unwritten {v s q err} (stage : e.stage = .editing v s) (fault : e.saveFault? s q = none)
      (write : w.store.writeRange e.script s.startLine s.endLine (s.text q) = .error err) :
      Exit e w (.save q) (.error (.store err), e, w)
  | saveStale {v s q err e' store written} (stage : e.stage = .editing v s)
      (fault : e.saveFault? s q = none)
      (write : w.store.writeRange e.script s.startLine s.endLine (s.text q) = .ok (store, written))
      (due : written.lineDelta ≠ 0 ∨ e.pending = true)
      (reload : e.reload store v (focusAfter s q) = (.error err, e')) :
      Exit e w (.save q) (.error err, e', ⟨store, e.closeSession w.locks s⟩)
  | saveReloaded {v s q v' focused e' store written} (stage : e.stage = .editing v s)
      (fault : e.saveFault? s q = none)
      (write : w.store.writeRange e.script s.startLine s.endLine (s.text q) = .ok (store, written))
      (due : written.lineDelta ≠ 0 ∨ e.pending = true)
      (reload : e.reload store v (focusAfter s q) = (.ok (v', focused), e')) :
      Exit e w (.save q)
        (.ok (.saved ⟨written, true, focused⟩), e', ⟨store, e.closeSession w.locks s⟩)
  | savePatched {v s q store written} (stage : e.stage = .editing v s)
      (fault : e.saveFault? s q = none)
      (write : w.store.writeRange e.script s.startLine s.endLine (s.text q) = .ok (store, written))
      (same : written.lineDelta = 0) (fresh : e.pending = false) :
      Exit e w (.save q) (.ok (.saved ⟨written, false, (e.focused q.focus).1⟩), { e with
        stage := .ready { v with lines := patched v s q }, canvas := (e.focused q.focus).2 },
        ⟨store, e.closeSession w.locks s⟩)
  | cancelStale {v s err e'} (stage : e.stage = .editing v s) (due : e.pending = true)
      (reload : e.reload w.store v (.keep s.viewport) = (.error err, e')) :
      Exit e w .cancel (.error err, e', { w with locks := e.closeSession w.locks s })
  | cancelReloaded {v s v' focused e'} (stage : e.stage = .editing v s) (due : e.pending = true)
      (reload : e.reload w.store v (.keep s.viewport) = (.ok (v', focused), e')) :
      Exit e w .cancel (.ok .closed, e', { w with locks := e.closeSession w.locks s })
  | cancelled {v s} (stage : e.stage = .editing v s) (fresh : e.pending = false) :
      Exit e w .cancel
        (.ok .closed, { e with stage := .ready v }, { w with locks := e.closeSession w.locks s })
  | insertStale {v node text err e'} (stage : e.stage = .ready v)
      (stale : e.catchUp w.store v = (.error err, e')) :
      Exit e w (.insertAfter node text) (.error err, e', w)
  | insertUnknown {v v' node text e'} (stage : e.stage = .ready v)
      (fresh : e.catchUp w.store v = (.ok v', e')) (unknown : v'.lineMap.entry? node = none) :
      Exit e w (.insertAfter node text) (.error (.nodeNotFound node), e', w)
  | uninserted {v v' node text e' entry err} (stage : e.stage = .ready v)
      (fresh : e.catchUp w.store v = (.ok v', e')) (known : v'.lineMap.entry? node = some entry)
      (write : w.store.insertLines e'.script (entry.endLine + 1) text = .error err) :
      Exit e w (.insertAfter node text) (.error (.store err), e', w)
  | insertedNothing {v v' node text e' entry store written} (stage : e.stage = .ready v)
      (fresh : e.catchUp w.store v = (.ok v', e')) (known : v'.lineMap.entry? node = some entry)
      (write : w.store.insertLines e'.script (entry.endLine + 1) text = .ok (store, written))
      (empty : written.lineCount = 0) :
      Exit e w (.insertAfter node text) (.ok (.saved ⟨written, false, none⟩), e', { w with store })
  | insertedStale {v v' node text e' entry store written err e''} (stage : e.stage = .ready v)
      (fresh : e.catchUp w.store v = (.ok v', e')) (known : v'.lineMap.entry? node = some entry)
      (write : w.store.insertLines e'.script (entry.endLine + 1) text = .ok (store, written))
      (nonempty : written.lineCount ≠ 0)
      (reload : e'.reload store v' (.line (entry.endLine + 1)) = (.error err, e'')) :
      Exit e w (.insertAfter node text) (.error err, e'', { w with store })
  | inserted {v v' node text e' entry store written v'' focused e''} (stage : e.stage = .ready v)
      (fresh : e.catchUp w.store v = (.ok v', e')) (known : v'.lineMap.entry? node = some entry)
      (write : w.store.insertLines e'.script (entry.endLine + 1) text = .ok (store, written))
      (nonempty : written.lineCount ≠ 0)
      (reload : e'.reload store v' (.line (entry.endLine + 1)) = (.ok (v'', focused), e'')) :
      Exit e w (.insertAfter node text)
        (.ok (.saved ⟨written, true, focused⟩), e'', { w with store })
  | changeIgnored (stage : e.stage = .idle) : Exit e w .scriptChanged (.ok (.noted .ignored), e, w)
  | changeStale {v err e'} (stage : e.stage = .ready v)
      (reload : e.reload w.store v (.keep e.canvas.viewport) = (.error err, e')) :
      Exit e w .scriptChanged (.error err, e', w)
  | changeApplied {v v' focused e'} (stage : e.stage = .ready v)
      (reload : e.reload w.store v (.keep e.canvas.viewport) = (.ok (v', focused), e')) :
      Exit e w .scriptChanged (.ok (.noted .applied), e', w)
  | changeDeferred {v s} (stage : e.stage = .editing v s) :
      Exit e w .scriptChanged (.ok (.noted .deferred), { e with pending := true }, w)

section

variable (e : Editor) (w : Shared)

theorem exit_load : Exit e w .load ((e.load w).map .drawn) := by
  cases stage : e.stage with
  | editing v s =>
    simp only [load, stage]
    exact .refused (by rw [stage]; rfl)
  | _ =>
    simp only [load, stage]
    split
    · next failed => exact .loadFailed (by rw [stage]; rfl) failed
    · next done => exact .loaded (by rw [stage]; rfl) done

theorem exit_setFilter (filter : LabelFilter) :
    Exit e w (.setFilter filter) ((e.setFilter w filter).map .drawn) := by
  cases stage : e.stage with
  | ready v =>
    simp only [setFilter, stage]
    split
    · next failed => exact .undrawn stage failed
    · next done => exact .filtered stage done
  | _ =>
    simp only [setFilter, stage]
    exact .refused (by rw [stage]; rfl)

theorem exit_beginEdit (node : String) :
    Exit e w (.beginEdit node) ((e.beginEdit w node).map .opened) := by
  cases stage : e.stage with
  | ready v =>
    simp only [beginEdit, stage]
    split
    · next stale => exact .beginStale stage stale
    · next fresh =>
      split
      · next unknown => exact .beginUnknown stage fresh unknown
      · next known =>
        split
        · next unread => exact .beginUnread stage fresh known unread
        · next read => exact .opened stage fresh known read _ rfl
  | _ =>
    simp only [beginEdit, stage]
    exact .refused (by rw [stage]; rfl)

theorem exit_save (q : SaveRequest) : Exit e w (.save q) ((e.save w q).map .saved) := by
  cases stage : e.stage with
  | editing v s =>
    simp only [save, stage]
    split
    · next fault => exact .saveBlocked stage fault
    · next fault =>
      split
      · next write => exact .unwritten stage fault write
      · next store written write =>
        simp only [afterWrite]
        split
        · next due =>
          split
          · next stale => exact .saveStale stage fault write due stale
          · next reloaded => exact .saveReloaded stage fault write due reloaded
        · next fresh =>
          have same : written.lineDelta = 0 ∧ e.pending = false := by
            simpa only [ne_eq, not_or, Decidable.not_not, Bool.not_eq_true] using fresh
          have done := Exit.savePatched (w := w) stage fault write same.1 same.2
          split
          · next here =>
            rw [here] at done
            exact done
          · next here =>
            rw [here] at done
            exact done
  | _ =>
    simp only [save, stage]
    exact .refused (by rw [stage]; rfl)

theorem exit_cancel : Exit e w .cancel ((e.cancel w).map fun _ => .closed) := by
  cases stage : e.stage with
  | editing v s =>
    simp only [cancel, stage]
    split
    · next due =>
      split
      · next stale => exact .cancelStale stage due stale
      · next reloaded => exact .cancelReloaded stage due reloaded
    · next fresh => exact .cancelled stage (by simpa using fresh)
  | _ =>
    simp only [cancel, stage]
    exact .refused (by rw [stage]; rfl)

theorem exit_insertAfter (node text : String) :
    Exit e w (.insertAfter node text) ((e.insertAfter w node text).map .saved) := by
  cases stage : e.stage with
  | ready v =>
    simp only [insertAfter, stage]
    split
    · next stale => exact .insertStale stage stale
    · next fresh =>
      split
      · next unknown => exact .insertUnknown stage fresh unknown
      · next known =>
        split
        · next write => exact .uninserted stage fresh known write
        · next write =>
          split
          · next empty => exact .insertedNothing stage fresh known write empty
          · next nonempty =>
            split
            · next stale => exact .insertedStale stage fresh known write nonempty stale
            · next reloaded => exact .inserted stage fresh known write nonempty reloaded
  | _ =>
    simp only [insertAfter, stage]
    exact .refused (by rw [stage]; rfl)

theorem exit_scriptChanged : Exit e w .scriptChanged ((e.scriptChanged w).map .noted) := by
  cases stage : e.stage with
  | idle =>
    simp only [scriptChanged, stage]
    exact .changeIgnored stage
  | ready v =>
    simp only [scriptChanged, stage]
    split
    · next stale => exact .changeStale stage stale
    · next reloaded => exact .changeApplied stage reloaded
  | editing v s =>
    have done := Exit.changeDeferred (w := w) stage
    rw [stage] at done
    simp only [scriptChanged, stage]
    exact done

/-- A request ends in one of the ways listed. -/
theorem exit_handle (r : Request) : Exit e w r (e.handle w r) := by
  cases r with
  | load => exact exit_load e w
  | setFilter filter => exact exit_setFilter e w filter
  | beginEdit node => exact exit_beginEdit e w node
  | save q => exact exit_save e w q
  | cancel => exact exit_cancel e w
  | insertAfter node text => exact exit_insertAfter e w node text
  | scriptChanged => exact exit_scriptChanged e w

/-- No request changes what an editor was set up with. -/
theorem Exit.setup {e : Editor} {w : Shared} {r : Request} {o : Outcome Answer}
    (exit : Exit e w r o) : e.SameSetup o.2.1 := by
  cases exit with
  | refused | undrawn | saveBlocked | unwritten | changeIgnored => exact .refl e
  | filtered | savePatched | cancelled | changeDeferred => exact ⟨rfl, rfl, rfl, rfl, rfl⟩
  | loadFailed stage refresh =>
    obtain ⟨k, rfl⟩ := refresh_error refresh
    exact ⟨rfl, rfl, rfl, rfl, rfl⟩
  | loaded stage refresh =>
    obtain ⟨-, rfl⟩ := refresh_ok refresh
    exact ⟨rfl, rfl, rfl, rfl, rfl⟩
  | beginStale stage stale | insertStale stage stale =>
    exact (reload_setup (catchUp_error stale).2).1
  | beginUnknown stage fresh | beginUnread stage fresh | insertUnknown stage fresh
  | uninserted stage fresh | insertedNothing stage fresh =>
    exact (catchUp_setup fresh stage).1
  | opened stage fresh =>
    obtain ⟨script, config, me, parser, lockFault⟩ := (catchUp_setup fresh stage).1
    exact ⟨script, config, me, parser, lockFault⟩
  | saveStale stage fault write due reload | saveReloaded stage fault write due reload
  | cancelStale stage due reload | cancelReloaded stage due reload
  | changeStale stage reload | changeApplied stage reload =>
    exact (reload_setup reload).1
  | insertedStale stage fresh known write nonempty reload
  | inserted stage fresh known write nonempty reload =>
    exact (catchUp_setup fresh stage).1.trans (reload_setup reload).1

end

end Editor

end StoryScript
