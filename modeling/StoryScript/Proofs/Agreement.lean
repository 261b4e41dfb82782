import StoryScript.Proofs.Runs

/-!
# Tree, index and picture agree

An editor holds a tree, the index of its lines and its picture, and the canvas shows a picture as
well. Each of the operations touches only some of them. Whatever happens, and wherever an operation
fails, they keep belonging together.

## Main definitions

* `Editor.Agrees` — the tree, the index and the two pictures belong together.
* `Editor.Shown`, `Editor.Fits` — the same of a given view, and of every stage.

## Main statements

* `Exit.fits` — every way for a request to end leaves them together.
* `agrees_after_run` — so does every run of a new editor.
-/

namespace StoryScript.Editor

/-- Either nothing was read and drawn so far, or index and picture are those of the tree that is
held, and the canvas shows that picture. -/
def Agrees (e : Editor) : Prop :=
  (e.tree? = none ∧ e.stage = .idle ∧ e.graph = {} ∧ e.lineMap = {} ∧
      e.canvas.graph = none ∧ e.canvas.renders = 0) ∨
    ∃ t, e.tree? = some t ∧ t.layout e.config.layout e.filter = .ok e.graph ∧
      e.lineMap = .ofTree t ∧ e.canvas.graph = some e.graph

/-- Index and picture of a view are those of its tree, and the canvas shows the picture. -/
structure Shown (e : Editor) (v : View) : Prop where
  layout : v.tree.layout e.config.layout e.filter = .ok v.graph
  lineMap : v.lineMap = .ofTree v.tree
  canvas : e.canvas.graph = some v.graph

/-- `Agrees`, stage by stage. -/
structure Fits (e : Editor) : Prop where
  blank : e.stage = .idle → e.canvas.graph = none ∧ e.canvas.renders = 0
  shown : ∀ v, e.stage.view? = some v → e.Shown v

variable {e e' : Editor} {w : Shared} {store : Store} {old v : View} {err : SyncError}

theorem Fits.agrees (h : e.Fits) : e.Agrees := by
  cases stage : e.stage with
  | idle =>
    obtain ⟨noPicture, noRender⟩ := h.blank stage
    exact .inl ⟨by simp [tree?, stage, Stage.view?], stage, by simp [graph, stage, Stage.view?],
      by simp [lineMap, stage, Stage.view?], noPicture, noRender⟩
  | ready v | editing v s =>
    have view : e.stage.view? = some v := by rw [stage]; rfl
    obtain ⟨layout, lineMap, canvas⟩ := h.shown v view
    exact .inr ⟨v.tree, by simp [tree?, view], by simpa [graph, view] using layout,
      by simpa [Editor.lineMap, view] using lineMap, by simpa [graph, view] using canvas⟩

/-- A stage that holds a view fits when that view is shown. -/
theorem Shown.fits (h : e.Shown v) (view : e.stage.view? = some v) : e.Fits where
  blank idle := by simp [idle, Stage.view?] at view
  shown v' view' := by
    rw [view, Option.some.injEq] at view'
    exact view' ▸ h

theorem Reads.layout (h : e.Reads store v) :
    v.tree.layout e.config.layout e.filter = .ok v.graph ∧ v.lineMap = .ofTree v.tree := by
  obtain ⟨source, parsed, -, -, drawn⟩ := h
  obtain ⟨-, layout, lineMap, -⟩ := viewOf_ok drawn
  exact ⟨layout, lineMap⟩

/-- Whatever was shown before, a view that was just read is. -/
theorem shown_of_reload {focus : Focus} {focused : Option String}
    (h : e.reload store old focus = (.ok (v, focused), e')) :
    e'.stage = .ready v ∧ e'.Shown v := by
  obtain ⟨reads, -, rfl⟩ := reload_ok h
  obtain ⟨layout, lineMap⟩ := reads.layout
  exact ⟨rfl, layout, lineMap, by simp⟩

theorem fits_of_reload_error {focus : Focus} (h : e.Shown old)
    (failed : e.reload store old focus = (.error err, e')) : e'.Fits := by
  obtain ⟨k, rfl⟩ := reload_error failed
  exact Shown.fits ⟨h.layout, h.lineMap, h.canvas⟩ rfl

theorem shown_of_catchUp (h : e.Shown old) (stage : e.stage = .ready old)
    (caught : e.catchUp store old = (.ok v, e')) : e'.stage = .ready v ∧ e'.Shown v := by
  obtain ⟨-, rfl, rfl⟩ | ⟨-, focused, reloaded⟩ := catchUp_ok caught
  · exact ⟨stage, h⟩
  · exact shown_of_reload reloaded

/-- Wherever a request ends, tree, index and pictures still belong together. -/
theorem Exit.fits {r : Request} {o : Outcome Answer} (exit : Exit e w r o) (h : e.Fits) :
    o.2.1.Fits := by
  have ready {v : View} (stage : e.stage = .ready v) : e.Shown v :=
    h.shown v (Stage.view?_of_ready stage)
  have editing {v : View} {s : Session} (stage : e.stage = .editing v s) : e.Shown v :=
    h.shown v (Stage.view?_of_editing stage)
  cases exit with
  | refused | undrawn | saveBlocked | unwritten | changeIgnored => exact h
  | loadFailed stage refresh =>
    obtain ⟨k, rfl⟩ := refresh_error refresh
    exact ⟨h.blank, fun v view => ⟨(h.shown v view).layout, (h.shown v view).lineMap,
      (h.shown v view).canvas⟩⟩
  | loaded stage refresh =>
    obtain ⟨reads, rfl⟩ := refresh_ok refresh
    obtain ⟨layout, lineMap⟩ := reads.layout
    exact Shown.fits ⟨layout, lineMap, rfl⟩ rfl
  | @filtered v filter graph stage layout =>
    exact Shown.fits (v := { v with graph }) ⟨layout, (ready stage).lineMap, rfl⟩ rfl
  | beginStale stage stale | insertStale stage stale =>
    exact fits_of_reload_error (ready stage) (catchUp_error stale).2
  | beginUnknown stage fresh | beginUnread stage fresh | insertUnknown stage fresh
  | uninserted stage fresh | insertedNothing stage fresh =>
    obtain ⟨stage', shown⟩ := shown_of_catchUp (ready stage) stage fresh
    exact shown.fits (Stage.view?_of_ready stage')
  | opened stage fresh =>
    obtain ⟨-, shown⟩ := shown_of_catchUp (ready stage) stage fresh
    exact Shown.fits ⟨shown.layout, shown.lineMap, shown.canvas⟩ rfl
  | saveStale stage fault write due reload | cancelStale stage due reload =>
    exact fits_of_reload_error (editing stage) reload
  | saveReloaded stage fault write due reload | cancelReloaded stage due reload
  | changeApplied stage reload | inserted stage fresh known write nonempty reload =>
    obtain ⟨stage', shown⟩ := shown_of_reload reload
    exact shown.fits (Stage.view?_of_ready stage')
  | @savePatched v s q store written stage fault write same fresh =>
    refine Shown.fits (v := { v with lines := patched v s q })
      ⟨(editing stage).layout, (editing stage).lineMap, ?_⟩ rfl
    cases q.focus with
    | none => exact (editing stage).canvas
    | some id => simpa [focused] using (editing stage).canvas
  | cancelled stage fresh =>
    exact Shown.fits ⟨(editing stage).layout, (editing stage).lineMap, (editing stage).canvas⟩ rfl
  | insertedStale stage fresh known write nonempty reload =>
    obtain ⟨-, shown⟩ := shown_of_catchUp (ready stage) stage fresh
    exact fits_of_reload_error shown reload
  | changeStale stage reload => exact fits_of_reload_error (ready stage) reload
  | changeDeferred stage =>
    exact Shown.fits ⟨(editing stage).layout, (editing stage).lineMap, (editing stage).canvas⟩
      (Stage.view?_of_editing stage)

theorem fits_new (script : String) (config : Config) (me : Participant) (parser : Parser) :
    (new script config me parser).Fits :=
  ⟨fun _ => ⟨rfl, rfl⟩, fun v view => by cases view⟩

/-- Only the editor's own operations touch what it holds and the picture on its canvas. -/
theorem fits_happen (x : Editor × Shared) (h : x.1.Fits) (ev : Event) : (happen x ev).1.Fits := by
  cases ev with
  | ask request => exact (exit_handle x.1 x.2 request).fits h
  | parser | lockFault | pan =>
    exact ⟨h.blank, fun v view => ⟨(h.shown v view).layout, (h.shown v view).lineMap,
      (h.shown v view).canvas⟩⟩
  | store | lock => exact h

/-- After every run of a new editor, whatever its parser answers and others do to the stored scripts
and the locks, tree, index and pictures belong together. -/
theorem agrees_after_run (script : String) (config : Config) (me : Participant) (parser : Parser)
    (w : Shared) (events : List Event) :
    (run (new script config me parser, w) events).1.Agrees := by
  have fits : (run (new script config me parser, w) events).1.Fits :=
    run_induction (P := fun x => x.1.Fits) (fits_new script config me parser)
      fun x h ev _ => fits_happen x h ev
  exact fits.agrees

end StoryScript.Editor
