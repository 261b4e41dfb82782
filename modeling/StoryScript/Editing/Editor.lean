import StoryScript.Config.Basic
import StoryScript.Editing.Locks
import StoryScript.Editing.Session
import StoryScript.Editing.Store
import StoryScript.Graph.Layout
import StoryScript.Index.Search
import StoryScript.Script.Outline

/-!
# Editing a script

An editor keeps the tree, the index, the picture and the text of one script in step. It works on
stored scripts and edit locks that others use as well, so both are handed to every operation and
come back from it. An operation that fails still gives back an editor: the last good picture stays,
and a refresh that could not be done is remembered and tried again before any line is addressed.

## Main definitions

* `Shared`, `View`, `Stage`, `Editor` — what others see, what was last read, and the editor.
* `Editor.new`, `tree?`, `graph`, `lineMap` — an editor at first, and what it holds.
* `SyncError` — why an operation fails.
* `Editor.load`, `setFilter`, `search`, `beginEdit`, `save`, `cancel`, `insertAfter`,
  `scriptChanged` — the operations.
* `Request`, `Answer`, `Editor.handle` — the operations as data.
-/

namespace StoryScript

/-- What the editors of a script have in common. -/
structure Shared where
  store : Store := {}
  locks : LockTable := {}
deriving Repr, Inhabited

/-- A script as it was last read: its tree and what was made of it. -/
structure View where
  tree : Tree
  lineCount : Nat
  lines : List String
  lineMap : LineMap
  graph : Graph Float
deriving Repr, Inhabited

/-- What an editor is doing. Nothing was read yet, or a script is shown, or one of its statements is
open as well. -/
inductive Stage where
  | idle
  | ready (view : View)
  | editing (view : View) (session : Session)
deriving Repr, Inhabited

namespace Stage

def name : Stage → String
  | idle => "Idle"
  | ready _ => "Ready"
  | editing _ s => s!"Editing({s.nodeId})"

def view? : Stage → Option View
  | idle => none
  | ready v => some v
  | editing v _ => some v

def session? : Stage → Option Session
  | editing _ s => some s
  | _ => none

end Stage

/-- What is wrong with the connection to the lock service. -/
inductive LockFault where
  | none
  /-- Taking a lock fails. -/
  | acquire
  /-- Giving a lock back fails. -/
  | release
  /-- Announcing fails. -/
  | announce
  /-- Taking a lock is never answered, until patience ends. -/
  | stall
deriving Repr, DecidableEq, Inhabited

/-- Why an operation fails. -/
inductive SyncError where
  /-- The stage does not allow it. -/
  | invalidState (stage : String)
  | nodeNotFound (node : String)
  | readOnly (node : String)
  | indentationBlocked (problem : String)
  | layout (error : LayoutError)
  | store (error : StoreError)
  | parser (reason : String)
deriving Repr, DecidableEq

def SyncError.message : SyncError → String
  | .invalidState stage => s!"operation not allowed in state {stage}"
  | .nodeNotFound node => s!"node not found in line index: {node}"
  | .readOnly node => s!"edit session for {node} is read-only"
  | .indentationBlocked problem => s!"save blocked by inconsistent indentation: {problem}"
  | .layout error => error.message
  | .store error => error.message
  | .parser reason => reason

/-- One who edits a script: settings, parser, connection to the locks, canvas and stage. -/
structure Editor where
  script : String
  config : Config := {}
  me : Participant := 0
  parser : Parser := outline
  /-- How often the parser was called. -/
  parses : Nat := 0
  lockFault : LockFault := .none
  canvas : Canvas := {}
  filter : LabelFilter := .all
  stage : Stage := .idle
  /-- A refresh is due: the script changed, and what is shown may be out of date. -/
  pending : Bool := false

namespace Editor

def new (script : String) (config : Config) (me : Participant) (parser : Parser) : Editor :=
  { script, config, me, parser }

def tree? (e : Editor) : Option Tree :=
  e.stage.view?.map (·.tree)

/-- The picture that is held; an empty one before anything was read. -/
def graph (e : Editor) : Graph Float :=
  (e.stage.view?.map (·.graph)).getD {}

/-- Which statement owns which line of the script that is held. -/
def lineMap (e : Editor) : LineMap :=
  (e.stage.view?.map (·.lineMap)).getD {}

end Editor

/-- What an operation comes to: its result, the editor, and what others see. -/
abbrev Outcome (α : Type) := Except SyncError α × Editor × Shared

namespace Editor

/-! ## Reading the script anew -/

/-- A parsed script as it is shown, if it can be drawn. -/
def viewOf (e : Editor) (source : String) (p : Parsed) : Except SyncError View :=
  match p.tree.layout e.config.layout e.filter with
  | .error err => .error (.layout err)
  | .ok graph => .ok ⟨p.tree, p.lineCount, Text.toLines source, .ofTree p.tree, graph⟩

/-- Reads, parses and draws the script. -/
def refresh (e : Editor) (store : Store) : Except SyncError View × Editor :=
  match store.readAll e.script with
  | .error err => (.error (.store err), e)
  | .ok source =>
    let e := { e with parses := e.parses + 1 }
    match e.parser source with
    | .error reason => (.error (.parser reason), e)
    | .ok parsed =>
      match e.viewOf source parsed with
      | .error err => (.error err, e)
      | .ok view => (.ok view, { e with canvas := e.canvas.render view.graph })

/-- Where the canvas goes after a refresh. -/
inductive Focus where
  /-- Back to a viewport. -/
  | keep (viewport : Viewport)
  /-- To a box. -/
  | node (id : String)
  /-- To the box of the statement that owns a line. -/
  | line (line : Nat)
deriving Repr

/-- Moves to the box of a picture, or shows all of it when there is no such box. -/
def focusNode (graph : Graph Float) (id : Option String) (c : Canvas) : Option String × Canvas :=
  match id with
  | none => (none, c.fitAll)
  | some id =>
    if (graph.node? id).isSome then
      let (moved, c) := c.focus id
      if moved then (some id, c) else (none, c.fitAll)
    else (none, c.fitAll)

/-- Moves the canvas as asked; the result is the box it went to. -/
def Focus.apply (f : Focus) (view : View) (c : Canvas) : Option String × Canvas :=
  match f with
  | keep viewport => (none, c.restore viewport)
  | node id => focusNode view.graph (some id) c
  | line n => focusNode view.graph ((view.lineMap.owner? n).map (·.nodeId)) c

@[simp] theorem graph_focusNode (g : Graph Float) (id : Option String) (c : Canvas) :
    (focusNode g id c).2.graph = c.graph := by
  unfold focusNode
  split
  · rfl
  · dsimp only
    split
    · split <;> simp
    · rfl

/-- Moving the canvas leaves the picture on it alone. -/
@[simp] theorem Focus.graph_apply (f : Focus) (view : View) (c : Canvas) :
    (f.apply view c).2.graph = c.graph := by
  cases f <;> simp [apply]

@[simp] theorem unfocusable_focusNode (g : Graph Float) (id : Option String) (c : Canvas) :
    (focusNode g id c).2.unfocusable = c.unfocusable := by
  unfold focusNode
  split
  · rfl
  · dsimp only
    split
    · split <;> simp
    · rfl

@[simp] theorem Focus.unfocusable_apply (f : Focus) (view : View) (c : Canvas) :
    (f.apply view c).2.unfocusable = c.unfocusable := by
  cases f <;> simp [apply]

/-- Replaces the view `old` by a fresh one; the result is that view, and the box the canvas went to.
When it fails the old view stays and the refresh remains due. -/
def reload (e : Editor) (store : Store) (old : View) (focus : Focus) :
    Except SyncError (View × Option String) × Editor :=
  match e.refresh store with
  | (.error err, e) => (.error err, { e with stage := .ready old, pending := true })
  | (.ok view, e) =>
    let (focused, canvas) := focus.apply view e.canvas
    (.ok (view, focused), { e with stage := .ready view, pending := false, canvas })

/-- Does the refresh that is due, if one is; the result is the view that counts from here on. -/
def catchUp (e : Editor) (store : Store) (view : View) : Except SyncError View × Editor :=
  if e.pending then
    match e.reload store view (.keep e.canvas.viewport) with
    | (.error err, e) => (.error err, e)
    | (.ok (view, _), e) => (.ok view, e)
  else (.ok view, e)

/-! ## Locks -/

/-- Tries to take the lock of a statement. A service that fails or never answers denies it. -/
def tryLock (e : Editor) (locks : LockTable) (node : String) : Bool × LockTable :=
  match e.lockFault with
  | .acquire | .stall => (false, locks)
  | _ => locks.acquire e.me node

/-- Gives the lock of a statement back, if the service answers. -/
def unlock (e : Editor) (locks : LockTable) (node : String) : LockTable :=
  if e.lockFault = .release then locks else locks.release e.me node

def announce (e : Editor) (locks : LockTable) (node : String) : LockTable :=
  if e.lockFault = .announce then locks else locks.announce e.me node

/-- Gives back the lock of a session that had it. -/
def closeSession (e : Editor) (locks : LockTable) (s : Session) : LockTable :=
  if s.readOnly then locks else e.unlock locks s.nodeId

/-! ## Operations -/

def refuse (e : Editor) (w : Shared) : Outcome α :=
  (.error (.invalidState e.stage.name), e, w)

/-- Reads the script and shows all of it. -/
def load (e : Editor) (w : Shared) : Outcome (Graph Float) :=
  match e.stage with
  | .editing .. => e.refuse w
  | _ =>
    match e.refresh w.store with
    | (.error err, e) => (.error err, e, w)
    | (.ok view, e) =>
      (.ok view.graph, { e with stage := .ready view, canvas := e.canvas.fitAll }, w)

/-- Draws one label, or all of them. -/
def setFilter (e : Editor) (w : Shared) (filter : LabelFilter) : Outcome (Graph Float) :=
  match e.stage with
  | .ready view =>
    match view.tree.layout e.config.layout filter with
    | .error err => (.error (.layout err), e, w)
    | .ok graph =>
      (.ok graph, { e with
        filter, stage := .ready { view with graph }, canvas := (e.canvas.render graph).fitAll }, w)
  | _ => e.refuse w

def search (e : Editor) (query : String) : List Hit :=
  match e.stage.view? with
  | none => []
  | some view => StoryScript.search view.lines view.lineMap query

/-- Opens a statement. Without its lock the session is read-only. -/
def beginEdit (e : Editor) (w : Shared) (node : String) : Outcome Session :=
  match e.stage with
  | .ready view =>
    match e.catchUp w.store view with
    | (.error err, e) => (.error err, e, w)
    | (.ok view, e) =>
      match view.lineMap.entry? node with
      | none => (.error (.nodeNotFound node), e, w)
      | some entry =>
        let (locked, locks) := e.tryLock w.locks node
        match w.store.readRange e.script entry.startLine entry.endLine with
        | .error err =>
          let locks := if locked then e.unlock locks node else locks
          (.error (.store err), e, { w with locks })
        | .ok excerpt =>
          let s := Session.ofExcerpt node entry excerpt (!locked) e.canvas.viewport
          (.ok s, { e with stage := .editing view s },
            { w with locks := if locked then e.announce locks node else locks })
  | _ => e.refuse w

/-- What a save or an insertion did. -/
structure SaveOutcome where
  write : Text.Written
  reloaded : Bool
  focused : Option String
deriving Repr, DecidableEq, Inhabited

/-- Why a session may not be saved. -/
def saveFault? (e : Editor) (s : Session) (r : SaveRequest) : Option SyncError :=
  if s.readOnly then some (.readOnly s.nodeId)
  else
    match s.indent.error with
    | some problem =>
      if e.config.indentPolicy.permits s.indent r.overrideIndent then none
      else some (.indentationBlocked problem)
    | none => none

/-- Closes a session after its text was written. While the number of lines stays the same the view
is only brought up to date; otherwise, or when a refresh is due, it is read anew. -/
def afterWrite (e : Editor) (store : Store) (view : View) (s : Session) (r : SaveRequest)
    (write : Text.Written) : Except SyncError SaveOutcome × Editor :=
  if write.lineDelta ≠ 0 ∨ e.pending then
    let focus := match r.focus with
      | some id => Focus.node id
      | none => .keep s.viewport
    match e.reload store view focus with
    | (.error err, e) => (.error err, e)
    | (.ok (_, focused), e) => (.ok ⟨write, true, focused⟩, e)
  else
    let lines := match Text.splice view.lines s.startLine s.endLine (s.text r) with
      | .ok (lines, _) => lines
      | .error _ => view.lines
    let e := { e with stage := .ready { view with lines } }
    match r.focus with
    | none => (.ok ⟨write, false, none⟩, e)
    | some id =>
      let (moved, canvas) := e.canvas.focus id
      (.ok ⟨write, false, if moved then some id else none⟩, { e with canvas })

/-- Writes the open statement back. -/
def save (e : Editor) (w : Shared) (r : SaveRequest) : Outcome SaveOutcome :=
  match e.stage with
  | .editing view s =>
    match e.saveFault? s r with
    | some err => (.error err, e, w)
    | none =>
      match w.store.writeRange e.script s.startLine s.endLine (s.text r) with
      | .error err => (.error (.store err), e, w)
      | .ok (store, write) =>
        let w : Shared := ⟨store, e.closeSession w.locks s⟩
        let (result, e) := e.afterWrite w.store view s r write
        (result, e, w)
  | _ => e.refuse w

/-- Closes the open statement without writing. -/
def cancel (e : Editor) (w : Shared) : Outcome Unit :=
  match e.stage with
  | .editing view s =>
    let w := { w with locks := e.closeSession w.locks s }
    if e.pending then
      match e.reload w.store view (.keep s.viewport) with
      | (.error err, e) => (.error err, e, w)
      | (.ok _, e) => (.ok (), e, w)
    else (.ok (), { e with stage := .ready view }, w)
  | _ => e.refuse w

/-- Inserts lines right behind a statement and goes to the new statement. -/
def insertAfter (e : Editor) (w : Shared) (node text : String) : Outcome SaveOutcome :=
  match e.stage with
  | .ready view =>
    match e.catchUp w.store view with
    | (.error err, e) => (.error err, e, w)
    | (.ok view, e) =>
      match view.lineMap.entry? node with
      | none => (.error (.nodeNotFound node), e, w)
      | some entry =>
        match w.store.insertLines e.script (entry.endLine + 1) text with
        | .error err => (.error (.store err), e, w)
        | .ok (store, write) =>
          let w := { w with store }
          if write.lineCount = 0 then (.ok ⟨write, false, none⟩, e, w)
          else
            match e.reload store view (.line (entry.endLine + 1)) with
            | (.error err, e) => (.error err, e, w)
            | (.ok (_, focused), e) => (.ok ⟨write, true, focused⟩, e, w)
  | _ => e.refuse w

/-- What became of the news that somebody changed the script. -/
inductive ChangeResponse where
  | applied
  /-- A statement is open; the refresh is done when it closes. -/
  | deferred
  /-- Nothing was read yet. -/
  | ignored
deriving Repr, DecidableEq, Inhabited

/-- Takes note that somebody changed the script. -/
def scriptChanged (e : Editor) (w : Shared) : Outcome ChangeResponse :=
  match e.stage with
  | .idle => (.ok .ignored, e, w)
  | .ready view =>
    match e.reload w.store view (.keep e.canvas.viewport) with
    | (.error err, e) => (.error err, e, w)
    | (.ok _, e) => (.ok .applied, e, w)
  | .editing .. => (.ok .deferred, { e with pending := true }, w)

end Editor

/-! ## Operations as data -/

/-- What can be asked of an editor. -/
inductive Request where
  | load
  | setFilter (filter : LabelFilter)
  | beginEdit (node : String)
  | save (request : SaveRequest)
  | cancel
  | insertAfter (node text : String)
  | scriptChanged
deriving Repr

/-- What an editor answers. -/
inductive Answer where
  | drawn (graph : Graph Float)
  | opened (session : Session)
  | saved (outcome : Editor.SaveOutcome)
  | closed
  | noted (update : Editor.ChangeResponse)
deriving Repr

/-- An answer as it is given: a session without what was seen when it began. -/
def Answer.unplaced : Answer → Answer
  | .opened s => .opened s.unplaced
  | answer => answer

theorem Answer.unplaced_opened (result : Except SyncError Session) :
    (result.map Answer.opened).map unplaced = (result.map Session.unplaced).map Answer.opened := by
  cases result <;> rfl

def Outcome.map (f : α → β) (o : Outcome α) : Outcome β :=
  (o.1.map f, o.2)

/-- Does what is asked. -/
def Editor.handle (e : Editor) (w : Shared) : Request → Outcome Answer
  | .load => (e.load w).map .drawn
  | .setFilter filter => (e.setFilter w filter).map .drawn
  | .beginEdit node => (e.beginEdit w node).map .opened
  | .save request => (e.save w request).map .saved
  | .cancel => (e.cancel w).map fun _ => .closed
  | .insertAfter node text => (e.insertAfter w node text).map .saved
  | .scriptChanged => (e.scriptChanged w).map .noted

end StoryScript
