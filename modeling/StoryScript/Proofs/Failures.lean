import StoryScript.Proofs.Rooms
import StoryScript.Proofs.Runs

/-!
# What a failed request leaves

A request can fail before it did anything, after a refresh that was due, or after it wrote its text.
What is shown, what is stored and what is open is then as it was, or as the last of these steps that
was completed left it.

## Main definitions

* `Editor.CaughtUp` — a refresh that was due was done first.
* `Editor.Stranded` — the last refresh failed when the session was over or the text written.
* `Editor.Failed` — what a failed request leaves.

## Main statements

* `Exit.error_canvas`, `Exit.error_shown`, `Exit.error_stored`, `Exit.error_stage` — the parts of an
  editor, one by one.
* `handle_error` — all of them, for every editor and every request.
-/

namespace StoryScript

/-- Whether a request first does a refresh that is due. -/
def Request.catchesUp : Request → Bool
  | .beginEdit _ | .insertAfter .. => true
  | _ => false

namespace Editor

variable {e e' : Editor} {w : Shared} {store : Store} {r : Request} {o : Outcome Answer}
  {old v : View} {err : SyncError}

/-! ## A refresh that fails -/

theorem SameSetup.reads_iff (same : e.SameSetup e') (filter : e'.filter = e.filter) :
    e'.Reads store v ↔ e.Reads store v := by
  simp only [Reads, viewOf, same.script, same.parser, same.config, filter]

theorem not_reads_of_refresh (failed : e.refresh store = (.error err, e')) :
    ¬ e.Reads store v := by
  rintro ⟨source, parsed, read, parse, drawn⟩
  have drawn' : ({ e with parses := e.parses + 1 } : Editor).viewOf source parsed = .ok v := drawn
  simp [refresh, read, parse, drawn'] at failed

theorem not_reads_of_reload {focus : Focus} (failed : e.reload store old focus = (.error err, e')) :
    ¬ e.Reads store v := by
  unfold reload at failed
  split at failed
  · next refreshed => exact not_reads_of_refresh refreshed
  · cases failed

/-- A refresh that is due changes what is shown, and nothing else that is seen. -/
theorem catchUp_kept (stage : e.stage = .ready old)
    (caught : e.catchUp store old = (.ok v, e')) :
    e'.filter = e.filter ∧ e'.canvas.viewport = e.canvas.viewport ∧ e'.stage = .ready v ∧
      (e.pending = true ∧ e.Reads store v ∧ e'.canvas.graph = some v.graph ∨
        e.pending = false ∧ v = old ∧ e'.canvas.graph = e.canvas.graph) := by
  rcases catchUp_ok caught with ⟨fresh, rfl, rfl⟩ | ⟨due, focused, reloaded⟩
  · exact ⟨rfl, rfl, stage, .inr ⟨fresh, rfl, rfl⟩⟩
  · obtain ⟨reads, -, rfl⟩ := reload_ok reloaded
    exact ⟨rfl, rfl, rfl, .inl ⟨due, reads, rfl⟩⟩

/-! ## The parts of an editor -/

/-- The refresh that was due was done before the request failed, and gave this view. -/
structure CaughtUp (e : Editor) (w : Shared) (r : Request) (v : View) : Prop where
  catchesUp : r.catchesUp = true
  ready : ∃ old, e.stage = .ready old
  due : e.pending = true
  reads : e.Reads w.store v

/-- The script can no longer be read after the text was written, or after a session was given up
with a refresh due; `store` is what is stored then. -/
def Stranded (e : Editor) (w : Shared) (r : Request) (store : Store) : Prop :=
  ((e.edit? w r).isSome ∨ r = .cancel ∧ e.stage.session?.isSome ∧ e.pending = true) ∧
    ∀ v, ¬ e.Reads store v

/-- What a failed request to the editor `e` leaves of the editor; `store` is what is stored then. -/
structure Failed (e : Editor) (w : Shared) (r : Request) (e' : Editor) (store : Store) : Prop where
  filter : e'.filter = e.filter
  viewport : e'.canvas.viewport = e.canvas.viewport
  /-- Tree, text, index and both pictures come from the refresh that was done first, or stay. -/
  shown : (∃ v, e.CaughtUp w r v ∧ e'.stage.view? = some v ∧ e'.canvas.graph = some v.graph) ∨
    (∀ v, ¬ e.CaughtUp w r v) ∧ e'.stage.view? = e.stage.view? ∧
      e'.canvas.graph = e.canvas.graph
  /-- A text was written and the script cannot be read since, or nothing was written. -/
  stored : (∃ d lines, e.edit? w r = some d ∧ w.store.lines? e.script = some lines ∧
      store.lines? e.script = some (d.apply lines) ∧ ∀ v, ¬ e.Reads store v) ∨
    e.edit? w r = none ∧ store = w.store
  /-- When the last refresh failed no session is left and a refresh is due; else the stage stays. -/
  stage : (e.Stranded w r store ∧ e'.stage.name = "Ready" ∧ e'.stage.session? = none ∧
      e'.pending = true) ∨
    ¬ e.Stranded w r store ∧ e'.stage.name = e.stage.name ∧ e'.stage.session? = e.stage.session?

/-- A request that did not do a refresh first. -/
theorem not_caughtUp (no : r.catchesUp = false ∨ (∀ v, e.stage ≠ .ready v) ∨ e.pending = false ∨
    ∀ v, ¬ e.Reads w.store v) (v : View) : ¬ e.CaughtUp w r v := by
  rintro ⟨catchesUp, ⟨old, ready⟩, due, reads⟩
  rcases no with other | elsewhere | fresh | unread
  · simp [catchesUp] at other
  · exact elsewhere old ready
  · simp [due] at fresh
  · exact unread v reads

theorem not_stranded (noEdit : e.edit? w r = none)
    (kept : r ≠ .cancel ∨ e.stage.session? = none ∨ e.pending = false) :
    ¬ e.Stranded w r store := by
  rintro ⟨wrote | ⟨cancel, isOpen, due⟩, -⟩
  · simp [noEdit] at wrote
  · simp_all

namespace Exit

theorem error_canvas (exit : Exit e w r o) (failed : o.1 = .error err) :
    o.2.1.filter = e.filter ∧ o.2.1.canvas.viewport = e.canvas.viewport := by
  cases exit with
  | refused | undrawn | saveBlocked | unwritten => exact ⟨rfl, rfl⟩
  | loadFailed stage refresh =>
    obtain ⟨k, rfl⟩ := refresh_error refresh
    exact ⟨rfl, rfl⟩
  | beginStale stage stale | insertStale stage stale =>
    obtain ⟨k, rfl⟩ := reload_error (catchUp_error stale).2
    exact ⟨rfl, rfl⟩
  | beginUnknown stage fresh | beginUnread stage fresh | insertUnknown stage fresh
  | uninserted stage fresh =>
    obtain ⟨filter, viewport, -⟩ := catchUp_kept stage fresh
    exact ⟨filter, viewport⟩
  | saveStale stage fault write due reload | cancelStale stage due reload
  | changeStale stage reload =>
    obtain ⟨k, rfl⟩ := reload_error reload
    exact ⟨rfl, rfl⟩
  | insertedStale stage fresh known write nonempty reload =>
    obtain ⟨filter, viewport, -⟩ := catchUp_kept stage fresh
    obtain ⟨k, rfl⟩ := reload_error reload
    exact ⟨filter, viewport⟩
  | _ => cases failed

theorem error_shown (exit : Exit e w r o) (failed : o.1 = .error err) :
    (∃ v, e.CaughtUp w r v ∧ o.2.1.stage.view? = some v ∧ o.2.1.canvas.graph = some v.graph) ∨
      (∀ v, ¬ e.CaughtUp w r v) ∧ o.2.1.stage.view? = e.stage.view? ∧
        o.2.1.canvas.graph = e.canvas.graph := by
  -- a refresh that was due decides, when the request did it first
  have caught {v v' : View} {e' : Editor} (catchesUp : r.catchesUp = true)
      (stage : e.stage = .ready v) (fresh : e.catchUp w.store v = (.ok v', e')) :
      e'.stage = .ready v' ∧
        ((e.CaughtUp w r v' ∧ e'.canvas.graph = some v'.graph) ∨
          (∀ v, ¬ e.CaughtUp w r v) ∧ e.stage.view? = some v' ∧
            e'.canvas.graph = e.canvas.graph) := by
    obtain ⟨-, -, stage', ⟨due, reads, graph⟩ | ⟨fresh', rfl, graph⟩⟩ := catchUp_kept stage fresh
    · exact ⟨stage', .inl ⟨⟨catchesUp, ⟨v, stage⟩, due, reads⟩, graph⟩⟩
    · exact ⟨stage', .inr ⟨not_caughtUp (.inr (.inr (.inl fresh'))), by rw [stage]; rfl, graph⟩⟩
  cases exit with
  | @refused r stage =>
    refine .inr ⟨not_caughtUp ?_, rfl, rfl⟩
    cases r with
    | beginEdit | insertAfter =>
      refine .inr (.inl fun v ready => ?_)
      simp [ready, Stage.allows] at stage
    | _ => exact .inl rfl
  | undrawn | saveBlocked | unwritten => exact .inr ⟨not_caughtUp (.inl rfl), rfl, rfl⟩
  | loadFailed stage refresh =>
    obtain ⟨k, rfl⟩ := refresh_error refresh
    exact .inr ⟨not_caughtUp (.inl rfl), rfl, rfl⟩
  | beginStale stage stale | insertStale stage stale =>
    have unread (v : View) := not_reads_of_reload (v := v) (catchUp_error stale).2
    obtain ⟨k, rfl⟩ := reload_error (catchUp_error stale).2
    exact .inr ⟨not_caughtUp (.inr (.inr (.inr unread))), (congrArg Stage.view? stage).symm, rfl⟩
  | beginUnknown stage fresh | beginUnread stage fresh | insertUnknown stage fresh
  | uninserted stage fresh =>
    obtain ⟨stage', ⟨up, graph⟩ | ⟨none, view, graph⟩⟩ := caught rfl stage fresh
    · exact .inl ⟨_, up, by rw [stage']; rfl, graph⟩
    · exact .inr ⟨none, by rw [view, stage']; rfl, graph⟩
  | saveStale stage fault write due reload | cancelStale stage due reload
  | changeStale stage reload =>
    obtain ⟨k, rfl⟩ := reload_error reload
    exact .inr ⟨not_caughtUp (.inl rfl), (congrArg Stage.view? stage).symm, rfl⟩
  | insertedStale stage fresh known write nonempty reload =>
    obtain ⟨stage', ⟨up, graph⟩ | ⟨none, view, graph⟩⟩ := caught rfl stage fresh
    · obtain ⟨k, rfl⟩ := reload_error reload
      exact .inl ⟨_, up, rfl, graph⟩
    · obtain ⟨k, rfl⟩ := reload_error reload
      exact .inr ⟨none, view.symm, graph⟩
  | _ => cases failed

theorem error_stored (exit : Exit e w r o) (failed : o.1 = .error err) :
    (∃ d lines, e.edit? w r = some d ∧ w.store.lines? e.script = some lines ∧
        o.2.2.store.lines? e.script = some (d.apply lines) ∧ ∀ v, ¬ e.Reads o.2.2.store v) ∨
      e.edit? w r = none ∧ o.2.2.store = w.store := by
  rcases exit.edit with ⟨none, same⟩ | ⟨d, lines, some, before, -, after⟩
  · exact .inr ⟨none, same⟩
  · refine .inl ⟨d, lines, some, before, after, fun v => ?_⟩
    cases exit with
    | refused stage => simp [edit?_refused stage] at some
    | loadFailed | undrawn | beginStale | beginUnknown | beginUnread | cancelStale
    | changeStale => cases some
    | saveBlocked stage fault => simp [edit?_saveBlocked stage fault] at some
    | unwritten stage fault write => simp [edit?_unwritten stage write] at some
    | insertStale stage stale => simp [edit?_insertStale stage stale] at some
    | insertUnknown stage fresh unknown => simp [edit?_insertUnknown stage fresh unknown] at some
    | uninserted stage fresh known write =>
      simp [edit?_uninserted stage fresh known write] at some
    | saveStale stage fault write due reload => exact not_reads_of_reload reload
    | insertedStale stage fresh known write nonempty reload =>
      obtain ⟨filter, -⟩ := catchUp_kept stage fresh
      rw [← (catchUp_setup fresh stage).1.reads_iff filter]
      exact not_reads_of_reload reload
    | _ => cases failed

theorem error_stage (exit : Exit e w r o) (failed : o.1 = .error err) :
    (e.Stranded w r o.2.2.store ∧ o.2.1.stage.name = "Ready" ∧ o.2.1.stage.session? = none ∧
        o.2.1.pending = true) ∨
      ¬ e.Stranded w r o.2.2.store ∧ o.2.1.stage.name = e.stage.name ∧
        o.2.1.stage.session? = e.stage.session? := by
  -- any view can be shown instead of another one
  have ready {v v' : View} {stage stage' : Stage} (h : stage = .ready v) (h' : stage' = .ready v') :
      stage'.name = stage.name ∧ stage'.session? = stage.session? := by
    rw [h, h']
    exact ⟨rfl, rfl⟩
  have other (noCancel : r ≠ .cancel) (noEdit : e.edit? w r = none) :
      ¬ e.Stranded w r o.2.2.store := not_stranded noEdit (.inl noCancel)
  cases exit with
  | @refused r stage =>
    refine .inr ⟨not_stranded (edit?_refused stage) ?_, rfl, rfl⟩
    cases r with
    | cancel =>
      refine .inr (.inl ?_)
      cases here : e.stage <;> simp_all [Stage.allows, Stage.session?]
    | _ => exact .inl (by simp)
  | undrawn => exact .inr ⟨other (by simp) rfl, rfl, rfl⟩
  | loadFailed stage refresh =>
    obtain ⟨k, rfl⟩ := refresh_error refresh
    exact .inr ⟨other (by simp) rfl, rfl, rfl⟩
  | saveBlocked stage fault =>
    exact .inr ⟨other (by simp) (edit?_saveBlocked stage fault), rfl, rfl⟩
  | unwritten stage fault write =>
    exact .inr ⟨other (by simp) (edit?_unwritten stage write), rfl, rfl⟩
  | beginStale stage stale =>
    obtain ⟨k, rfl⟩ := reload_error (catchUp_error stale).2
    exact .inr ⟨other (by simp) rfl, ready stage rfl⟩
  | insertStale stage stale =>
    obtain ⟨k, rfl⟩ := reload_error (catchUp_error stale).2
    exact .inr ⟨other (by simp) (edit?_insertStale stage stale), ready stage rfl⟩
  | changeStale stage reload =>
    obtain ⟨k, rfl⟩ := reload_error reload
    exact .inr ⟨other (by simp) rfl, ready stage rfl⟩
  | beginUnknown stage fresh | beginUnread stage fresh =>
    exact .inr ⟨other (by simp) rfl, ready stage (catchUp_setup fresh stage).2.1⟩
  | insertUnknown stage fresh unknown =>
    exact .inr ⟨other (by simp) (edit?_insertUnknown stage fresh unknown),
      ready stage (catchUp_setup fresh stage).2.1⟩
  | uninserted stage fresh known write =>
    exact .inr ⟨other (by simp) (edit?_uninserted stage fresh known write),
      ready stage (catchUp_setup fresh stage).2.1⟩
  | saveStale stage fault write due reload =>
    have wrote := edit?_saved stage fault write
    have unread (v : View) := not_reads_of_reload (v := v) reload
    obtain ⟨k, rfl⟩ := reload_error reload
    exact .inl ⟨⟨.inl (by simp [wrote]), unread⟩, rfl, rfl, rfl⟩
  | cancelStale stage due reload =>
    have unread (v : View) := not_reads_of_reload (v := v) reload
    obtain ⟨k, rfl⟩ := reload_error reload
    exact .inl ⟨⟨.inr ⟨rfl, by simp [stage, Stage.session?], due⟩, unread⟩, rfl, rfl, rfl⟩
  | insertedStale stage fresh known write nonempty reload =>
    have wrote := edit?_inserted stage fresh known write
    obtain ⟨filter, -⟩ := catchUp_kept stage fresh
    have unread (v : View) := not_reads_of_reload (v := v) reload
    simp only [(catchUp_setup fresh stage).1.reads_iff filter] at unread
    obtain ⟨k, rfl⟩ := reload_error reload
    exact .inl ⟨⟨.inl (by simp [wrote]), unread⟩, rfl, rfl, rfl⟩
  | _ => cases failed

end Exit

/-- Whatever fails, and wherever it fails: the labels that are drawn and the viewport stay. Tree,
text, index and pictures stay together as they were, or come together from the refresh that was due
and was done first. What is stored stays, unless the text was written and the script cannot be read
since. Then, and when that happens to a session that is given up with a refresh due, no session is
left and a refresh is due; otherwise the stage and the session stay. -/
theorem handle_error (e : Editor) (w : Shared) (r : Request) {err : SyncError}
    (failed : (e.handle w r).1 = .error err) :
    e.Failed w r (e.handle w r).2.1 (e.handle w r).2.2.store := by
  have exit := exit_handle e w r
  obtain ⟨filter, viewport⟩ := exit.error_canvas failed
  exact ⟨filter, viewport, exit.error_shown failed, exit.error_stored failed,
    exit.error_stage failed⟩

/-- The refresh that was due was done, the text was written, and then the script could not be read.
What is shown is from the refresh in between, and another one is due. -/
theorem handle_error_behind_written_text :
    let parser : Parser := fun text =>
      if text = "label a:\n    two\n    three\n" then .error "three" else outline text
    let stored (text : String) : Event := .store (({} : Store).put "s" text)
    let x := run (new "s" {} 0 parser, {}) [stored "label a:\n    one\n", .ask .load,
      .store {}, .ask .scriptChanged, stored "label a:\n    two\n"]
    let r : Request := .insertAfter "a-0" "    three"
    let e' := (x.1.handle x.2 r).2.1
    (∃ err, (x.1.handle x.2 r).1 = .error err) ∧
      x.1.stage.view?.map (·.lines) = some ["label a:", "    one"] ∧
      (∃ v, x.1.CaughtUp x.2 r v ∧ e'.stage.view? = some v ∧ e'.canvas.graph = some v.graph ∧
        v.lines = ["label a:", "    two"]) ∧
      (x.1.handle x.2 r).2.2.store.content? "s" = some "label a:\n    two\n    three\n" ∧
      e'.pending = true := by
  intro parser stored x r e'
  obtain ⟨fails, before, now, after, due⟩ : (x.1.handle x.2 r).1.toOption.isNone ∧
      x.1.stage.view?.map (·.lines) = some ["label a:", "    one"] ∧
      e'.stage.view?.map (·.lines) = some ["label a:", "    two"] ∧
      (x.1.handle x.2 r).2.2.store.content? "s" = some "label a:\n    two\n    three\n" ∧
      e'.pending = true := by decide +kernel
  have result : (x.1.handle x.2 r).2.1 = e' := rfl
  clear_value e' x
  cases failed : (x.1.handle x.2 r).1 with
  | ok answer => simp [failed, Except.toOption] at fails
  | error err =>
    refine ⟨⟨err, rfl⟩, before, ?_, after, due⟩
    have left := handle_error x.1 x.2 r failed
    rw [result] at left
    rcases left.shown with ⟨v, up, view, graph⟩ | ⟨-, view, -⟩
    · exact ⟨v, up, view, graph, by simpa [view] using now⟩
    · rw [view, before] at now
      simp at now

end Editor

end StoryScript
