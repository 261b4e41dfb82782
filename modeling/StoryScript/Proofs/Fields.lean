import StoryScript.Editing.Controller
import StoryScript.Proofs.Runs

/-!
# Stages and fields

Between two operations the fields of a controller belong together: what they hold can be told from
a stage. Here the operations on the fields are shown to do what those on stages do. Whatever happens
to both, they give the same answers, leave the same scripts and locks behind, and the fields stay
those of the stage.

## Main definitions

* `Stage.state` — the state that a stage is shown as.
* `Editor.spread`, `Editor.fields` — a controller with given fields, and with those of an editor.
* `Controller.happen`, `Controller.run` — what happens to a controller.

## Main statements

* `reload_spread`, `retry_fields` — reading the script anew sets the fields as it sets the stage.
* `save_spread`, `cancel_spread` — the fields that closing a session sets on its way.
* `handle_fields`, `run_fields`, `run_new_fields` — every request, wherever it ends, and every run
  leaves the fields of the stage.
* `state_fields_cases`, `state_fields_eq_editing_iff`, `seen_fields` — what that means for the
  state, the session, and what was seen when it began.
-/

namespace StoryScript

namespace Stage

/-- The state that a stage is shown as. -/
def state : Stage → SyncState
  | .idle => .idle
  | .ready _ => .ready
  | .editing _ s => .editing s.nodeId

theorem name_state (stage : Stage) : stage.state.name = stage.name := by
  cases stage <;> rfl

end Stage

namespace Editor

/-- A controller set up like an editor, with the given fields; those that are read with a script are
the ones of a view. -/
def spread (e : Editor) (view? : Option View) (state : SyncState) (session : Option Session)
    (seen : Option Viewport) (pending : Bool) : Controller where
  script := e.script
  config := e.config
  me := e.me
  parser := e.parser
  parses := e.parses
  lockFault := e.lockFault
  canvas := e.canvas
  filter := e.filter
  state := state
  tree := view?.map (·.tree)
  lineCount := (view?.map (·.lineCount)).getD 0
  lines := (view?.map (·.lines)).getD []
  lineMap := (view?.map (·.lineMap)).getD {}
  graph := (view?.map (·.graph)).getD {}
  session := session
  seen := seen
  pending := pending

/-- The fields of an editor between two operations. What was seen when the open session began is in
a field of its own; while none is open, something may be left there from before. -/
def fields (e : Editor) (left : Option Viewport) : Controller :=
  e.spread e.stage.view? e.stage.state (e.stage.session?.map Session.unplaced)
    ((e.stage.session?.map (·.viewport)).or left) e.pending

end Editor

namespace Outcome

/-- What an operation comes to, with the fields of the editor. -/
def fields (o : Outcome α) (left : Option Viewport) : Controller.Ending α :=
  (o.1, o.2.1.fields left, o.2.2)

/-- Operations that do the same give the same answer, and every answer but a session is given as it
is. -/
theorem answer_fields {f : α → Answer} (plain : ∀ a, (f a).unplaced = f a) {o : Outcome α}
    {left : Option Viewport} {x : Controller.Ending α} (same : x = o.fields left) :
    x.map f = ((o.map f).map Answer.unplaced).fields left := by
  subst same
  obtain ⟨result, e, w⟩ := o
  cases result with
  | error err => rfl
  | ok a => simp only [fields, map, Controller.Ending.map, Except.map, plain]

end Outcome

namespace Editor

section

variable {e : Editor} (left : Option Viewport)

theorem fields_of_closed (closed : e.stage.session? = none) :
    e.fields left = e.spread e.stage.view? e.stage.state none left e.pending := by
  rw [fields, closed]
  rfl

theorem fields_of_ready {v : View} (stage : e.stage = .ready v) :
    e.fields left = e.spread (some v) .ready none left e.pending := by
  rw [fields, stage]
  rfl

theorem fields_of_editing {v : View} {s : Session} (stage : e.stage = .editing v s) :
    e.fields left = e.spread (some v) (.editing s.nodeId) (some s.unplaced) (some s.viewport)
      e.pending := by
  rw [fields, stage]
  rfl

theorem state_fields : (e.fields left).state = e.stage.state := rfl

end

/-! ## Reading the script anew -/

section

variable (e : Editor) (w : Shared) (store : Store) (view? : Option View) (old : View)
  (state : SyncState) (session : Option Session) (seen left : Option Viewport) (pending : Bool)

theorem fetch_spread : (e.spread view? state session seen pending).fetch store =
    match e.refresh store with
    | (.error err, e') => (.error err, e'.spread view? state session seen pending)
    | (.ok v, e') => (.ok (), e'.spread (some v) state session seen pending) := by
  have script : (e.spread view? state session seen pending).script = e.script := rfl
  have parser : (e.spread view? state session seen pending).parser = e.parser := rfl
  unfold Controller.fetch refresh
  rw [script]
  cases store.readAll e.script with
  | error err => rfl
  | ok source =>
    dsimp only
    rw [parser]
    cases e.parser source with
    | error reason => rfl
    | ok parsed =>
      simp only [Controller.rebuild, viewOf, spread]
      cases parsed.tree.layout e.config.layout e.filter <;> rfl

/-- Whatever state it begins in, reading the script anew ends with the fields of a stage without a
session. -/
theorem reload_spread (focus : Focus) :
    (e.spread (some old) state none left pending).reload store (some focus) =
      ((e.reload store old focus).1.map (·.2), (e.reload store old focus).2.fields left) := by
  have start : { e.spread (some old) state none left pending with
      state := .reloading, pending := false } =
      e.spread (some old) .reloading none left false := rfl
  unfold Controller.reload reload
  rw [start, fetch_spread]
  cases refreshed : e.refresh store with
  | mk result e' =>
    cases result with
    | error err => rfl
    | ok v => cases focus <;> rfl

theorem retry_fields (stage : e.stage = .ready old) : (e.fields left).retry store =
    ((e.catchUp store old).1.map fun _ => (), (e.catchUp store old).2.fields left) := by
  have due : (e.spread (some old) .ready none left e.pending).pending = e.pending := rfl
  have canvas : (e.spread (some old) .ready none left e.pending).canvas = e.canvas := rfl
  rw [fields_of_ready left stage]
  unfold Controller.retry catchUp
  rw [due, canvas, reload_spread]
  split
  · cases reloaded : e.reload store old (.keep e.canvas.viewport) with
    | mk result e' => cases result <;> rfl
  · rw [← fields_of_ready left stage]
    rfl

/-! ## The operations -/

theorem refuse_fields {α : Type} :
    (e.fields left).refuse w = (e.refuse w : Outcome α).fields left := by
  rw [Controller.refuse, state_fields, Stage.name_state]
  rfl

theorem load_of_closed (closed : e.stage.session? = none) : e.load w =
    match e.refresh w.store with
    | (.error err, e') => (.error err, e', w)
    | (.ok v, e') =>
      (.ok v.graph, { e' with stage := .ready v, canvas := e'.canvas.fitAll }, w) := by
  obtain ⟨script, config, me, parser, parses, lockFault, canvas, filter, stage, pending⟩ := e
  cases stage with
  | idle | ready v => rfl
  | editing v s => cases closed

theorem load_fields : (e.fields left).load w = (e.load w).fields left := by
  cases closed : e.stage.session? with
  | some s =>
    obtain ⟨v, stage⟩ := Stage.exists_view_of_session? closed
    have busy : ¬ ((e.fields left).state = .idle ∨ (e.fields left).state = .ready) := by
      simp [state_fields, stage, Stage.state]
    rw [Controller.load, if_neg busy, refuse_fields]
    simp only [load, stage]
  | none =>
    have free : (e.fields left).state = .idle ∨ (e.fields left).state = .ready := by
      cases stage : e.stage <;> simp_all [state_fields, Stage.state, Stage.session?]
    have start : { e.fields left with state := .loading } =
        e.spread e.stage.view? .loading none left e.pending := by
      rw [fields_of_closed left closed]
      rfl
    rw [Controller.load, if_pos free, start, fetch_spread, load_of_closed e w closed]
    cases refreshed : e.refresh w.store with
    | mk result e' =>
      cases result with
      | error err =>
        obtain ⟨k, rfl⟩ := refresh_error refreshed
        simp only [Outcome.fields, fields, closed]
        rfl
      | ok v =>
        obtain ⟨-, rfl⟩ := refresh_ok refreshed
        rfl

theorem setFilter_fields (filter : LabelFilter) :
    (e.fields left).setFilter w filter = (e.setFilter w filter).fields left := by
  cases stage : e.stage with
  | idle | editing v s =>
    have busy : (e.fields left).state ≠ .ready := by simp [state_fields, stage, Stage.state]
    rw [Controller.setFilter, if_neg busy, refuse_fields]
    simp only [setFilter, stage]
  | ready v =>
    rw [fields_of_ready left stage]
    simp only [Controller.setFilter, setFilter, stage, spread]
    cases layout : v.tree.layout e.config.layout filter with
    | error err => simp [layout, Outcome.fields, fields_of_ready left stage, spread]
    | ok graph => simp [layout]; rfl

theorem beginEdit_fields (node : String) : (e.fields left).beginEdit w node =
    ((e.beginEdit w node).map Session.unplaced).fields left := by
  cases stage : e.stage with
  | idle | editing v s =>
    have busy : (e.fields left).state ≠ .ready := by simp [state_fields, stage, Stage.state]
    rw [Controller.beginEdit, if_neg busy, refuse_fields]
    simp only [beginEdit, stage]
    rfl
  | ready v =>
    have ready : (e.fields left).state = .ready := by rw [state_fields, stage, Stage.state]
    rw [Controller.beginEdit, if_pos ready, retry_fields e w.store v left stage]
    simp only [beginEdit, stage]
    cases caught : e.catchUp w.store v with
    | mk result e' =>
      cases result with
      | error err => rfl
      | ok v' =>
        obtain ⟨-, stage', -⟩ := catchUp_setup caught stage
        have lineMap : (e'.fields left).lineMap = v'.lineMap := by
          rw [fields_of_ready left stage']
          rfl
        have script : (e'.fields left).script = e'.script := rfl
        have tryLock : (e'.fields left).tryLock w.locks node = e'.tryLock w.locks node := rfl
        simp only [Outcome.fields, Outcome.map, Except.map, lineMap, script, tryLock]
        cases v'.lineMap.entry? node with
        | none => rfl
        | some entry =>
          dsimp only
          cases w.store.readRange e'.script entry.startLine entry.endLine with
          | error err => rfl
          | ok excerpt =>
            dsimp only
            rw [Session.ofExcerpt_unplaced node excerpt entry _ e'.canvas.viewport,
              fields_of_ready left stage', fields_of_editing left rfl]
            simp only [Session.nodeId_ofExcerpt, Session.viewport_ofExcerpt]
            rfl

theorem afterWrite_fields (v : View) (s : Session) (q : SaveRequest) (write : Text.Written) :
    (e.spread (some v) .saving none (some s.viewport) e.pending).afterWrite store s.unplaced q
        write =
      ((e.afterWrite store v s q write).1, (e.afterWrite store v s q write).2.fields none) := by
  have start : { e.spread (some v) .saving none (some s.viewport) e.pending with seen := none } =
      e.spread (some v) .saving none none e.pending := rfl
  have seen_eq : (e.spread (some v) .saving none (some s.viewport) e.pending).seen =
      some s.viewport := rfl
  unfold Controller.afterWrite afterWrite
  simp only [start, seen_eq]
  split
  · next due =>
    have due' : write.lineDelta ≠ 0 ∨ e.pending := due
    simp only [if_pos due']
    cases q.focus with
    | none =>
      dsimp only [Option.map]
      rw [reload_spread]
      cases e.reload store v (.keep s.viewport) with
      | mk result e' => cases result <;> rfl
    | some id =>
      dsimp only
      rw [reload_spread]
      cases e.reload store v (.node id) with
      | mk result e' => cases result <;> rfl
  · next fresh =>
    have fresh' : ¬ (write.lineDelta ≠ 0 ∨ e.pending) := fresh
    simp only [if_neg fresh']
    cases q.focus <;> rfl

/-- A save with the fields that it sets on the way: the session is closed after the write, and
before anything is read. -/
theorem save_spread (v : View) (s : Session) (q : SaveRequest) :
    (e.spread (some v) (.editing s.nodeId) (some s.unplaced) seen pending).save w q =
      match e.saveFault? s q with
      | some err =>
        (.error err, e.spread (some v) (.editing s.nodeId) (some s.unplaced) seen pending, w)
      | none =>
        match w.store.writeRange e.script s.startLine s.endLine (s.text q) with
        | .error err => (.error (.store err),
          e.spread (some v) (.editing s.nodeId) (some s.unplaced) seen pending, w)
        | .ok (store, write) =>
          let (result, c) :=
            (e.spread (some v) .saving none seen pending).afterWrite store s.unplaced q write
          (result, c, ⟨store, e.closeSession w.locks s⟩) :=
  rfl

/-- What was seen when the session began is taken out once its text is written, and stays where it
is as long as the session is open. -/
theorem save_fields (q : SaveRequest) :
    ∃ left', (e.fields left).save w q = (e.save w q).fields left' := by
  cases stage : e.stage with
  | idle | ready v =>
    have free : (e.fields left).save w q = (e.fields left).refuse w := by
      simp only [Controller.save, state_fields, stage, Stage.state]
    refine ⟨left, ?_⟩
    rw [free, refuse_fields]
    simp only [save, stage]
  | editing v s =>
    have opened := fields_of_editing left stage
    rw [opened, save_spread]
    simp only [Outcome.fields, save, stage]
    cases e.saveFault? s q with
    | some err => exact ⟨left, by rw [opened]⟩
    | none =>
      dsimp only
      cases w.store.writeRange e.script s.startLine s.endLine (s.text q) with
      | error err => exact ⟨left, by rw [opened]⟩
      | ok written =>
        refine ⟨none, ?_⟩
        dsimp only
        rw [afterWrite_fields]

/-- The same for closing without writing. -/
theorem cancel_spread (v : View) (s : Session) :
    (e.spread (some v) (.editing s.nodeId) (some s.unplaced) seen pending).cancel w =
      if pending then
        match (e.spread (some v) .ready none none pending).reload w.store (seen.map .keep) with
        | (.error err, c) => (.error err, c, { w with locks := e.closeSession w.locks s })
        | (.ok _, c) => (.ok (), c, { w with locks := e.closeSession w.locks s })
      else (.ok (), e.spread (some v) .ready none seen pending,
        { w with locks := e.closeSession w.locks s }) :=
  rfl

/-- When no refresh is due, what was seen when the session began is left behind. -/
theorem cancel_fields : ∃ left', (e.fields left).cancel w = (e.cancel w).fields left' := by
  cases stage : e.stage with
  | idle | ready v =>
    have free : (e.fields left).cancel w = (e.fields left).refuse w := by
      simp only [Controller.cancel, state_fields, stage, Stage.state]
    refine ⟨left, ?_⟩
    rw [free, refuse_fields]
    simp only [cancel, stage]
  | editing v s =>
    rw [fields_of_editing left stage, cancel_spread, Option.map_some]
    simp only [cancel, stage]
    split
    · refine ⟨none, ?_⟩
      rw [reload_spread]
      cases e.reload w.store v (.keep s.viewport) with
      | mk result e' => cases result <;> rfl
    · exact ⟨some s.viewport, rfl⟩

theorem insertAfter_fields (node text : String) :
    (e.fields left).insertAfter w node text = (e.insertAfter w node text).fields left := by
  cases stage : e.stage with
  | idle | editing v s =>
    have busy : (e.fields left).state ≠ .ready := by simp [state_fields, stage, Stage.state]
    rw [Controller.insertAfter, if_neg busy, refuse_fields]
    simp only [insertAfter, stage]
  | ready v =>
    have ready : (e.fields left).state = .ready := by rw [state_fields, stage, Stage.state]
    rw [Controller.insertAfter, if_pos ready, retry_fields e w.store v left stage]
    simp only [insertAfter, stage]
    cases caught : e.catchUp w.store v with
    | mk result e' =>
      cases result with
      | error err => rfl
      | ok v' =>
        obtain ⟨-, stage', -⟩ := catchUp_setup caught stage
        have lineMap : (e'.fields left).lineMap = v'.lineMap := by
          rw [fields_of_ready left stage']
          rfl
        have script : (e'.fields left).script = e'.script := rfl
        simp only [Except.map, lineMap, script]
        cases v'.lineMap.entry? node with
        | none => rfl
        | some entry =>
          dsimp only
          cases w.store.insertLines e'.script (entry.endLine + 1) text with
          | error err => rfl
          | ok written =>
            dsimp only
            split
            · rfl
            · rw [fields_of_ready left stage', reload_spread]
              cases e'.reload written.1 v' (.line (entry.endLine + 1)) with
              | mk result e'' => cases result <;> rfl

theorem scriptChanged_fields :
    (e.fields left).scriptChanged w = (e.scriptChanged w).fields left := by
  cases stage : e.stage with
  | idle =>
    simp only [Controller.scriptChanged, Outcome.fields, state_fields, scriptChanged, stage,
      Stage.state]
  | editing v s =>
    simp only [Controller.scriptChanged, Outcome.fields, state_fields, scriptChanged, stage,
      Stage.state]
    rw [fields_of_editing left stage, fields_of_editing left rfl]
    rfl
  | ready v =>
    have canvas : (e.fields left).canvas = e.canvas := rfl
    simp only [Controller.scriptChanged, state_fields, scriptChanged, stage, Stage.state, canvas]
    rw [fields_of_ready left stage, reload_spread]
    cases e.reload w.store v (.keep e.canvas.viewport) with
    | mk result e' => cases result <;> rfl

/-- Whatever is asked, wherever that ends, what is kept in the fields is what the stage tells, and
the answer is the same. -/
theorem handle_fields (r : Request) :
    ∃ left', (e.fields left).handle w r = ((e.handle w r).map Answer.unplaced).fields left' := by
  cases r with
  | load => exact ⟨left, Outcome.answer_fields (fun _ => rfl) (load_fields e w left)⟩
  | setFilter filter =>
    exact ⟨left, Outcome.answer_fields (fun _ => rfl) (setFilter_fields e w left filter)⟩
  | beginEdit node =>
    refine ⟨left, ?_⟩
    rw [Controller.handle, beginEdit_fields]
    simp only [handle, Outcome.fields, Outcome.map, Controller.Ending.map, Answer.unplaced_opened]
  | save q =>
    obtain ⟨left', save_eq⟩ := save_fields e w left q
    exact ⟨left', Outcome.answer_fields (fun _ => rfl) save_eq⟩
  | cancel =>
    obtain ⟨left', cancel_eq⟩ := cancel_fields e w left
    exact ⟨left', Outcome.answer_fields (fun _ => rfl) cancel_eq⟩
  | insertAfter node text =>
    exact ⟨left, Outcome.answer_fields (fun _ => rfl) (insertAfter_fields e w left node text)⟩
  | scriptChanged =>
    exact ⟨left, Outcome.answer_fields (fun _ => rfl) (scriptChanged_fields e w left)⟩

end

end Editor

/-! ## Runs -/

namespace Controller

/-- A controller and what it shares with others, after an event. -/
def happen (x : Controller × Shared) : Event → Controller × Shared
  | .ask request => (x.1.handle x.2 request).2
  | .parser parser => ({ x.1 with parser }, x.2)
  | .lockFault lockFault => ({ x.1 with lockFault }, x.2)
  | .pan viewport => ({ x.1 with canvas := x.1.canvas.restore viewport }, x.2)
  | .store store => (x.1, { x.2 with store })
  | .lock caller call => (x.1, { x.2 with locks := x.2.locks.after caller call })

/-- A controller and what it shares with others, after one event after another. -/
def run (x : Controller × Shared) (events : List Event) : Controller × Shared :=
  events.foldl happen x

end Controller

namespace Editor

theorem happen_fields (x : Editor × Shared) (left : Option Viewport) (ev : Event) :
    ∃ left', Controller.happen (x.1.fields left, x.2) ev =
      ((happen x ev).1.fields left', (happen x ev).2) := by
  cases ev with
  | ask request =>
    obtain ⟨left', handle_eq⟩ := handle_fields x.1 x.2 left request
    exact ⟨left', congrArg Prod.snd handle_eq⟩
  | _ => exact ⟨left, rfl⟩

/-- Whatever happens to an editor and to a controller alike, the fields of the controller remain
those of the editor, and what others see is the same. -/
theorem run_fields (x : Editor × Shared) (left : Option Viewport) (events : List Event) :
    ∃ left', Controller.run (x.1.fields left, x.2) events =
      ((run x events).1.fields left', (run x events).2) := by
  induction events generalizing x left with
  | nil => exact ⟨left, rfl⟩
  | cons ev events ih =>
    obtain ⟨left', happen_eq⟩ := happen_fields x left ev
    obtain ⟨left'', run_eq⟩ := ih (happen x ev) left'
    refine ⟨left'', ?_⟩
    rw [Controller.run, List.foldl_cons, happen_eq]
    exact run_eq

/-- A new controller has the fields of a new editor, so theirs agree after every run. -/
theorem run_new_fields (script : String) (config : Config) (me : Participant) (parser : Parser)
    (w : Shared) (events : List Event) :
    ∃ left, Controller.run (.new script config me parser, w) events =
      ((run (new script config me parser, w) events).1.fields left,
        (run (new script config me parser, w) events).2) :=
  run_fields (new script config me parser, w) none events

section

variable (e : Editor) (left : Option Viewport)

/-- No operation is left in a state that it goes through on its way. -/
theorem state_fields_cases : (e.fields left).state = .idle ∨ (e.fields left).state = .ready ∨
    ∃ n, (e.fields left).state = .editing n := by
  rw [state_fields]
  cases e.stage with
  | idle => exact .inl rfl
  | ready v => exact .inr (.inl rfl)
  | editing v s => exact .inr (.inr ⟨s.nodeId, rfl⟩)

/-- A session is kept just as long as the state tells that its statement is open. -/
theorem state_fields_eq_editing_iff (n : String) : (e.fields left).state = .editing n ↔
    ∃ s, (e.fields left).session = some s ∧ s.nodeId = n := by
  cases stage : e.stage with
  | idle => simp [fields, spread, stage, Stage.state, Stage.session?]
  | ready v => simp [fields_of_ready left stage, spread]
  | editing v s => simp [fields_of_editing left stage, spread, Session.unplaced]

/-- As long as a session is open, what was seen when it began is there to go back to. -/
theorem seen_fields {s : Session} (isOpen : e.stage.session? = some s) :
    (e.fields left).seen = some s.viewport := by
  rw [fields, isOpen]
  rfl

end

end Editor

end StoryScript
