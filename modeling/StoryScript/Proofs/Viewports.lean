import StoryScript.Proofs.Agreement
import StoryScript.Proofs.Reopening

/-!
# Where the canvas goes

The user moves the canvas, and so do some requests. When the script is read anew the canvas stays
where it is, goes back to where it was when the statement that is left was opened, or goes to a box.
When that box is not there it shows all. Which of these it is, depends on the request, and not on
what happened before.

## Main definitions

* `Canvas.At` — the canvas was sent to a box and stands there.
* `Editor.Sent` — a canvas that was to go to a box, and whether it did.

## Main statements

* `sent_focusNode` — moving to a box of the picture that is shown.
* `Exit.saved_viewport`, `Exit.cancelled_viewport`, `Exit.begun_viewport`, `Exit.changed_viewport`,
  `Exit.inserted_viewport` — where a request leaves the canvas.
* `Opening.viewport` — a session remembers where the canvas was when it was opened.
* `viewport_after_run` — so it is after every run of a new editor.
-/

namespace StoryScript

/-- The canvas was sent to a box of a picture and stands there, with a given zoom. -/
def Canvas.At (c : Canvas) (g : Graph Float) (zoom : Float) (id : String) : Prop :=
  ∃ box, g.node? id = some box ∧ c.focused = some id ∧
    c.viewport = ⟨box.position.x, box.position.y, zoom⟩

namespace Editor

variable {e e' : Editor} {w : Shared} {r : Request} {o : Outcome Answer} {store : Store}
  {old v : View} {g : Graph Float} {c : Canvas} {focused : Option String}

/-! ## Going to a box -/

/-- A canvas with the picture `g` was to go to a box, if there is a `target`. It went to the box
`focused` and kept the zoom, or there is no such box. -/
structure Sent (g : Graph Float) (zoom : Float) (target focused : Option String) (c : Canvas) :
    Prop where
  found : focused = target.filter fun id => (g.node? id).isSome
  there : ∀ id, focused = some id → c.At g zoom id

section Boxes

variable (graph : c.graph = some g) (free : c.unfocusable = [])

include graph free

/-- A canvas moves to every box of the picture that it shows. -/
theorem focus_of_some {id : String} {box : Box Float} (found : g.node? id = some box) :
    c.focus id = (true, { c with
      viewport := ⟨box.position.x, box.position.y, c.viewport.zoom⟩, focused := some id }) := by
  simp [Canvas.focus, graph, free, found]

theorem focus_of_none {id : String} (missing : g.node? id = none) : c.focus id = (false, c) := by
  simp [Canvas.focus, graph, free, missing]

theorem sent_of_some {id : String} {box : Box Float} (found : g.node? id = some box) :
    Sent g c.viewport.zoom (some id) (some id) (c.focus id).2 := by
  refine ⟨by simp [Option.filter, found], ?_⟩
  rintro _ ⟨⟩
  rw [focus_of_some graph free found]
  exact ⟨box, found, rfl, rfl⟩

omit graph free in
theorem sent_of_none {id : String} (zoom : Float) (missing : g.node? id = none) :
    Sent g zoom (some id) none c :=
  ⟨by simp [Option.filter, missing], by simp⟩

/-- The canvas goes to a box of the picture that it shows. When there is no such box, or none was
asked for, it shows all. -/
theorem sent_focusNode (target : Option String) :
    Sent g c.viewport.zoom target (focusNode g target c).1 (focusNode g target c).2 ∧
      ((focusNode g target c).1 = none → (focusNode g target c).2.viewport = {}) := by
  cases target with
  | none => exact ⟨⟨rfl, by simp [focusNode]⟩, fun _ => rfl⟩
  | some id =>
    cases found : g.node? id with
    | none =>
      have shown : focusNode g (some id) c = (none, c.fitAll) := by simp [focusNode, found]
      rw [shown]
      exact ⟨sent_of_none _ found, fun _ => rfl⟩
    | some box =>
      have moved : focusNode g (some id) c = (some id, (c.focus id).2) := by
        simp [focusNode, focus_of_some graph free found, found]
      rw [moved]
      exact ⟨sent_of_some graph free found, by simp⟩

end Boxes

/-- The canvas goes to a box, or stays where it is. -/
theorem sent_focused (graph : e.canvas.graph = some g) (free : e.canvas.unfocusable = [])
    (target : Option String) :
    Sent g e.canvas.viewport.zoom target (e.focused target).1 (e.focused target).2 := by
  cases target with
  | none => exact ⟨rfl, by simp [Editor.focused]⟩
  | some id =>
    cases found : g.node? id with
    | none =>
      have stayed : e.focused (some id) = (none, e.canvas) := by
        simp [Editor.focused, focus_of_none graph free found]
      rw [stayed]
      exact sent_of_none _ found
    | some box =>
      have moved : e.focused (some id) = (some id, (e.canvas.focus id).2) := by
        simp [Editor.focused, focus_of_some graph free found]
      rw [moved]
      exact sent_of_some graph free found

/-! ## Reading the script anew -/

/-- The canvas goes to a viewport that it is to keep. -/
theorem reload_keep {viewport : Viewport}
    (reloaded : e.reload store old (.keep viewport) = (.ok (v, focused), e')) :
    focused = none ∧ e'.canvas.viewport = viewport := by
  obtain ⟨-, rfl, rfl⟩ := reload_ok reloaded
  exact ⟨rfl, rfl⟩

/-- The canvas goes to a box of the picture that was drawn anew, or shows all of it. -/
theorem reload_sent {focus : Focus} (target : Option String) (free : e.canvas.unfocusable = [])
    (reloaded : e.reload store old focus = (.ok (v, focused), e'))
    (goes : ∀ c, focus.apply v c = focusNode v.graph target c) :
    Sent e'.graph e.canvas.viewport.zoom target focused e'.canvas ∧
      (focused = none → e'.canvas.viewport = {}) := by
  obtain ⟨-, rfl, rfl⟩ := reload_ok reloaded
  rw [goes]
  exact sent_focusNode (c := e.canvas.render v.graph) rfl free target

theorem viewport_reload_keep {result : Except SyncError (View × Option String)}
    (h : e.reload store old (.keep e.canvas.viewport) = (result, e')) :
    e'.canvas.viewport = e.canvas.viewport := by
  cases result with
  | error err =>
    obtain ⟨k, rfl⟩ := reload_error h
    rfl
  | ok p => exact (reload_keep h).2

/-- A refresh that is due moves nothing, whether it succeeds or not. -/
theorem viewport_catchUp {result : Except SyncError View}
    (h : e.catchUp store old = (result, e')) : e'.canvas.viewport = e.canvas.viewport := by
  cases result with
  | error err => exact viewport_reload_keep (catchUp_error h).2
  | ok v =>
    obtain ⟨-, -, rfl⟩ | ⟨-, focused, reloaded⟩ := catchUp_ok h
    · rfl
    · exact viewport_reload_keep reloaded

theorem unfocusable_reload {focus : Focus} {result : Except SyncError (View × Option String)}
    (h : e.reload store old focus = (result, e')) :
    e'.canvas.unfocusable = e.canvas.unfocusable := by
  cases result with
  | error err =>
    obtain ⟨k, rfl⟩ := reload_error h
    rfl
  | ok p =>
    obtain ⟨-, -, rfl⟩ := reload_ok h
    simp

theorem unfocusable_catchUp {result : Except SyncError View}
    (h : e.catchUp store old = (result, e')) :
    e'.canvas.unfocusable = e.canvas.unfocusable := by
  cases result with
  | error err => exact unfocusable_reload (catchUp_error h).2
  | ok v =>
    obtain ⟨-, -, rfl⟩ | ⟨-, focused, reloaded⟩ := catchUp_ok h
    · rfl
    · exact unfocusable_reload reloaded

/-! ## Requests -/

namespace Exit

theorem changed_viewport (exit : Exit e w .scriptChanged o) :
    o.2.1.canvas.viewport = e.canvas.viewport := by
  cases exit with
  | changeStale stage reload | changeApplied stage reload => exact viewport_reload_keep reload
  | refused | changeIgnored | changeDeferred => rfl

theorem begun_viewport {node : String} (exit : Exit e w (.beginEdit node) o) :
    o.2.1.canvas.viewport = e.canvas.viewport := by
  cases exit with
  | refused => rfl
  | beginStale stage fresh | beginUnknown stage fresh | beginUnread stage fresh =>
    exact viewport_catchUp fresh
  | opened stage fresh =>
    have kept := viewport_catchUp fresh
    exact kept

theorem cancelled_viewport {s : Session} (exit : Exit e w .cancel o) (success : o.1 = .ok .closed)
    (isOpen : e.stage.session? = some s) (due : e.pending = true) :
    o.2.1.canvas.viewport = s.viewport := by
  cases exit with
  | cancelReloaded stage due reload =>
    rw [stage] at isOpen
    obtain rfl := Option.some.inj isOpen
    exact (reload_keep reload).2
  | cancelled stage fresh => simp [due] at fresh
  | _ => cases success

/-- A save goes to the box that was asked for. When the script is read anew and no such box is
there, all is shown; when none was asked for, the canvas goes back to where it was. -/
theorem saved_viewport {q : SaveRequest} {s : Session} {outcome : SaveOutcome}
    (exit : Exit e w (.save q) o) (success : o.1 = .ok (.saved outcome))
    (isOpen : e.stage.session? = some s) (fits : e.Fits) (free : e.canvas.unfocusable = []) :
    Sent o.2.1.graph e.canvas.viewport.zoom q.focus outcome.focused o.2.1.canvas ∧
      (outcome.reloaded = true → outcome.focused = none →
        o.2.1.canvas.viewport = if q.focus.isSome then {} else s.viewport) := by
  cases exit with
  | saveReloaded stage fault write due reload =>
    rw [stage] at isOpen
    obtain rfl := Option.some.inj isOpen
    cases success
    rw [focusAfter] at reload
    cases focus : q.focus with
    | none =>
      rw [focus] at reload
      obtain ⟨rfl, viewport⟩ := reload_keep reload
      exact ⟨⟨rfl, by simp⟩, fun _ _ => viewport⟩
    | some id =>
      rw [focus] at reload
      obtain ⟨sent, missing⟩ := reload_sent (some id) free reload fun _ => rfl
      exact ⟨sent, fun _ => missing⟩
  | savePatched stage fault write same fresh =>
    cases success
    have shown := (fits.shown _ (Stage.view?_of_editing stage)).canvas
    exact ⟨sent_focused shown free q.focus, by simp⟩
  | _ => cases success

/-- An insertion goes to the box of the statement that owns the first new line, or shows all. -/
theorem inserted_viewport {node text : String} {outcome : SaveOutcome}
    (exit : Exit e w (.insertAfter node text) o) (success : o.1 = .ok (.saved outcome))
    (free : e.canvas.unfocusable = []) :
    (∃ target, Sent o.2.1.graph e.canvas.viewport.zoom target outcome.focused o.2.1.canvas) ∧
      (outcome.reloaded = true →
        outcome.focused = ((o.2.1.lineMap.owner? outcome.write.startLine).map (·.nodeId)).filter
          (fun id => (o.2.1.graph.node? id).isSome) ∧
        (outcome.focused = none → o.2.1.canvas.viewport = {})) := by
  cases exit with
  | insertedNothing stage fresh known write empty =>
    cases success
    exact ⟨⟨none, rfl, by simp⟩, by simp⟩
  | inserted stage fresh known write nonempty reload =>
    cases success
    obtain ⟨d, lines, -, inserted, -⟩ := Store.edit_eq_ok_iff.1 write
    obtain ⟨-, -, rfl⟩ := Text.insertAt_eq_ok_iff.1 inserted
    obtain ⟨sent, missing⟩ := reload_sent _ ((unfocusable_catchUp fresh).trans free) reload
      fun _ => rfl
    rw [viewport_catchUp fresh] at sent
    obtain ⟨-, -, rfl⟩ := reload_ok reload
    exact ⟨⟨_, sent⟩, fun _ => ⟨sent.found, missing⟩⟩
  | _ => cases success

/-- The box that an answer names is there, and the canvas went to it. -/
theorem at_focused {outcome : SaveOutcome} {id : String} (exit : Exit e w r o)
    (success : o.1 = .ok (.saved outcome)) (went : outcome.focused = some id) (fits : e.Fits)
    (free : e.canvas.unfocusable = []) :
    o.2.1.canvas.At o.2.1.graph e.canvas.viewport.zoom id := by
  cases r with
  | save q =>
    obtain ⟨s, isOpen, -⟩ := exit.saved success
    exact (exit.saved_viewport success isOpen fits free).1.there id went
  | insertAfter node text =>
    obtain ⟨⟨target, sent⟩, -⟩ := exit.inserted_viewport success free
    exact sent.there id went
  | _ => cases exit <;> cases success

theorem opened_viewport {node : String} {s : Session} (exit : Exit e w (.beginEdit node) o)
    (opened : o.1 = .ok (.opened s)) : s.viewport = e.canvas.viewport := by
  cases exit with
  | opened stage fresh known read s' session =>
    cases opened
    rw [session, Session.viewport_ofExcerpt, viewport_catchUp fresh]
  | _ => cases opened

/-- No request changes which boxes the canvas does not move to. -/
theorem unfocusable (exit : Exit e w r o) :
    o.2.1.canvas.unfocusable = e.canvas.unfocusable := by
  cases exit with
  | refused | undrawn | filtered | saveBlocked | unwritten | cancelled | changeIgnored
  | changeDeferred => rfl
  | loadFailed stage refresh =>
    obtain ⟨k, rfl⟩ := refresh_error refresh
    rfl
  | loaded stage refresh =>
    obtain ⟨-, rfl⟩ := refresh_ok refresh
    rfl
  | beginStale stage fresh | beginUnknown stage fresh | beginUnread stage fresh
  | insertStale stage fresh | insertUnknown stage fresh | uninserted stage fresh
  | insertedNothing stage fresh => exact unfocusable_catchUp fresh
  | opened stage fresh =>
    have kept := unfocusable_catchUp fresh
    exact kept
  | @savePatched v s q =>
    cases q.focus <;> simp [focused]
  | saveStale stage fault write due reload | saveReloaded stage fault write due reload
  | cancelStale stage due reload | cancelReloaded stage due reload
  | changeStale stage reload | changeApplied stage reload => exact unfocusable_reload reload
  | insertedStale stage fresh known write nonempty reload
  | inserted stage fresh known write nonempty reload =>
    exact (unfocusable_reload reload).trans (unfocusable_catchUp fresh)

end Exit

/-! ## Runs -/

theorem unfocusable_run (x : Editor × Shared) (events : List Event) :
    (run x events).1.canvas.unfocusable = x.1.canvas.unfocusable := by
  refine run_induction (P := fun y => y.1.canvas.unfocusable = x.1.canvas.unfocusable) rfl
    fun y h ev _ => ?_
  cases ev with
  | ask request => exact (exit_handle y.1 y.2 request).unfocusable.trans h
  | store | parser | lockFault | pan | lock => exact h

/-- A session remembers where the canvas was when it was opened. -/
theorem Opening.viewport {x : Editor × Shared} {events : List Event} {s : Session}
    (o : Opening x events s) : s.viewport = (run x o.before).1.canvas.viewport :=
  (exit_handle _ _ _).opened_viewport o.opened

/-- After every run of a new editor, whoever does what in between:
- a save that reads the script anew and was not told where to go, and a cancel that does the refresh
  that is due, leave the canvas where it was when the statement was opened;
- news of a change, opening a statement, and a refresh that is due leave it where it is;
- when a request is answered with a box, this box is in the picture, and the canvas went to it and
  kept the zoom;
- a save that reads the script anew and was told where to go is answered with that box just when it
  is in the new picture; an insertion is answered with the box of the statement that owns the first
  new line, just when there is one; otherwise the canvas shows all. -/
theorem viewport_after_run (script : String) (config : Config) (me : Participant) (parser : Parser)
    (w : Shared) (events : List Event) :
    let start := (new script config me parser, w)
    let x := run start events
    let answer (r : Request) := (x.1.handle x.2 r).1
    let after (r : Request) := (x.1.handle x.2 r).2.1
    (∀ s, x.1.stage.session? = some s → Nonempty (Opening start events s) ∧
      ∀ o : Opening start events s, let home := (run start o.before).1.canvas.viewport
        (∀ q outcome, answer (.save q) = .ok (.saved outcome) → outcome.reloaded = true →
          q.focus = none → (after (.save q)).canvas.viewport = home) ∧
        (answer .cancel = .ok .closed → x.1.pending = true →
          (after .cancel).canvas.viewport = home)) ∧
    (after .scriptChanged).canvas.viewport = x.1.canvas.viewport ∧
    (∀ node, (after (.beginEdit node)).canvas.viewport = x.1.canvas.viewport) ∧
    (∀ v, x.1.stage = .ready v →
      (x.1.catchUp x.2.store v).2.canvas.viewport = x.1.canvas.viewport) ∧
    (∀ r outcome id, answer r = .ok (.saved outcome) → outcome.focused = some id →
      (after r).canvas.At (after r).graph x.1.canvas.viewport.zoom id) ∧
    (∀ q id outcome, answer (.save q) = .ok (.saved outcome) → outcome.reloaded = true →
      q.focus = some id →
        (outcome.focused = if ((after (.save q)).graph.node? id).isSome then some id else none) ∧
        (outcome.focused = none → (after (.save q)).canvas.viewport = {})) ∧
    ∀ node text outcome, let r := Request.insertAfter node text
      answer r = .ok (.saved outcome) → outcome.reloaded = true →
        (outcome.focused = (((after r).lineMap.owner? outcome.write.startLine).map
          (·.nodeId)).filter fun id => ((after r).graph.node? id).isSome) ∧
        (outcome.focused = none → (after r).canvas.viewport = {}) := by
  intro start x answer after
  have fits : x.1.Fits := run_induction (P := fun y => y.1.Fits)
    (fits_new script config me parser) fun y h ev _ => fits_happen y h ev
  have free : x.1.canvas.unfocusable = [] := unfocusable_run start events
  have exit (r : Request) : Exit x.1 x.2 r (x.1.handle x.2 r) := exit_handle x.1 x.2 r
  refine ⟨fun s isOpen => ⟨exists_opening rfl isOpen, fun o => ⟨?_, ?_⟩⟩,
    (exit .scriptChanged).changed_viewport, fun node => (exit (.beginEdit node)).begun_viewport,
    fun v _ => viewport_catchUp rfl,
    fun r outcome id success went => (exit r).at_focused success went fits free, ?_, ?_⟩
  · intro q outcome success reloaded nowhere
    obtain ⟨sent, missing⟩ := (exit (.save q)).saved_viewport success isOpen fits free
    have none_there : outcome.focused = none := by rw [sent.found, nowhere, Option.filter_none]
    rw [← o.viewport, missing reloaded none_there, nowhere]
    rfl
  · intro success due
    rw [← o.viewport]
    exact (exit .cancel).cancelled_viewport success isOpen due
  · intro q id outcome success reloaded goal
    obtain ⟨s, isOpen, -⟩ := (exit (.save q)).saved success
    obtain ⟨sent, missing⟩ := (exit (.save q)).saved_viewport success isOpen fits free
    rw [goal] at sent missing
    exact ⟨sent.found, fun none_there => missing reloaded none_there⟩
  · intro node text outcome r success reloaded
    exact ((exit r).inserted_viewport success free).2 reloaded

/-- The canvas is moved before a statement is opened and again while it is open. A save of more
lines goes back to where it was first, if it is not told otherwise. Told to go to the second
statement it goes there, and told to go to one that does not exist it shows all. -/
theorem viewport_after_run_panned :
    let w : Shared := { store := ({} : Store).put "s" "label a:\n    one\n    two\n" }
    let seen : Viewport := ⟨3, 4, 5⟩
    let events : List Event := [.ask .load, .pan seen, .ask (.beginEdit "a-0"), .pan ⟨6, 7, 8⟩]
    let x := run (new "s" {} 0 outline, w) events
    let saved (focus : Option String) :=
      x.1.handle x.2 (.save { body := "eins\n\neins", focus })
    (∃ outcome, (saved none).1 = .ok (.saved outcome) ∧ outcome.reloaded = true) ∧
      (saved none).2.1.canvas.viewport = seen ∧
      (∃ outcome, (saved "a-1").1 = .ok (.saved outcome) ∧ outcome.focused = some "a-1") ∧
      (saved "a-1").2.1.canvas.At (saved "a-1").2.1.graph x.1.canvas.viewport.zoom "a-1" ∧
      (∃ outcome, (saved "z").1 = .ok (.saved outcome) ∧ outcome.reloaded = true) ∧
      (saved "z").2.1.canvas.viewport = {} := by
  intro w seen events x saved
  obtain ⟨isOpen, plain, second, gone⟩ : x.1.stage.session?.isSome = true ∧
      (x.1.save x.2 { body := "eins\n\neins" }).1.toOption.map
        (fun outcome => (outcome.reloaded, outcome.focused)) = some (true, none) ∧
      (x.1.save x.2 { body := "eins\n\neins", focus := "a-1" }).1.toOption.map
        (fun outcome => (outcome.reloaded, outcome.focused)) = some (true, some "a-1") ∧
      (x.1.save x.2 { body := "eins\n\neins", focus := "z" }).1.toOption.map
        (fun outcome => (outcome.reloaded, outcome.focused)) = some (true, none) := by
    decide +kernel
  obtain ⟨back, -, -, -, at_box, to_box, -⟩ := viewport_after_run "s" {} 0 outline w events
  have x_eq : run (new "s" {} 0 outline, w) events = x := rfl
  rw [x_eq] at back at_box to_box
  clear_value x
  obtain ⟨s, isOpen⟩ := Option.isSome_iff_exists.1 isOpen
  obtain ⟨⟨o⟩, home⟩ := back s isOpen
  have before : o.before = [.ask .load, .pan seen] := by
    have split := o.split
    generalize o.before = before at split ⊢
    rcases before with _ | ⟨a, _ | ⟨b, _ | ⟨c, _ | ⟨d, rest⟩⟩⟩⟩ <;> simp [events] at split
    obtain ⟨rfl, rfl, -⟩ := split
    rfl
  obtain ⟨outcome, success, told⟩ := exists_saved plain
  obtain ⟨outcome', success', told'⟩ := exists_saved second
  obtain ⟨outcome'', success'', told''⟩ := exists_saved gone
  simp only [Prod.mk.injEq] at told told' told''
  refine ⟨⟨outcome, success, told.1⟩, ?_, ⟨outcome', success', told'.2⟩,
    at_box _ outcome' "a-1" success' told'.2, ⟨outcome'', success'', told''.1⟩,
    (to_box _ "z" outcome'' success'' told''.1 rfl).2 told''.2⟩
  have kept := (home o).1 _ outcome success told.1 rfl
  rw [before] at kept
  exact kept

end Editor

end StoryScript
